import WorkTree.Signature
import WorkTree.Value.Members

set_option relaxedAutoImplicit false
set_option autoImplicit false

/-!
# Failures

A failure is the answer of an operation that could not do what it was asked for. It has a category,
a message and details of the occasion, which are written after the message. Messages are texts; a
caller who makes a failure may give any value in the place of one.

## Main definitions

* `WorkTree.Failure.Category`, `WorkTree.Failure.Kind` — what sort of failure it is, and the tag by
  which callers tell failures apart.
* `WorkTree.Failure.Category.name`, `WorkTree.Failure.Category.ofName?` — the names of the sorts.
* `WorkTree.Failure` — a failure; `text` writes it with its details.
* `WorkTree.Failure.ofGiven` — the failure that a caller makes of some values.

## Main results

* `WorkTree.Failure.text_of_message` — a failure whose message is a text can be written.
-/

namespace WorkTree

namespace Failure

/-- The tags by which callers tell failures apart. -/
inductive Kind where
  | notARepository
  | branchExists
  | branchNotFound
  | cannotDeleteCurrentBranch
  | invalidBranchName
  | operationTimedOut
  | toolInvocationFailed
  deriving DecidableEq, Repr

/-- How a tag is written. -/
def Kind.name : Kind → String
  | .notARepository => "not_a_repository"
  | .branchExists => "branch_exists"
  | .branchNotFound => "branch_not_found"
  | .cannotDeleteCurrentBranch => "cannot_delete_current_branch"
  | .invalidBranchName => "invalid_branch_name"
  | .operationTimedOut => "operation_timed_out"
  | .toolInvocationFailed => "tool_invocation_failed"

/-- The sorts of failures. A name that breaks rules comes with the wording of each; a failure of no
particular sort has the tag of a failed invocation. -/
inductive Category where
  | general
  | notARepository
  | branchExists
  | branchNotFound
  | cannotDeleteCurrentBranch
  | invalidBranchName (errors : List String)
  | operationTimedOut
  | toolInvocationFailed
  deriving DecidableEq, Repr

/-- The tag of a sort of failures. -/
def Category.kind : Category → Kind
  | .general => .toolInvocationFailed
  | .notARepository => .notARepository
  | .branchExists => .branchExists
  | .branchNotFound => .branchNotFound
  | .cannotDeleteCurrentBranch => .cannotDeleteCurrentBranch
  | .invalidBranchName _ => .invalidBranchName
  | .operationTimedOut => .operationTimedOut
  | .toolInvocationFailed => .toolInvocationFailed

/-- The name by which callers ask for a sort of failures. -/
def Category.name : Category → String
  | .general => "GitCacheError"
  | .notARepository => "NotARepositoryError"
  | .branchExists => "BranchExistsError"
  | .branchNotFound => "BranchNotFoundError"
  | .cannotDeleteCurrentBranch => "CannotDeleteCurrentBranchError"
  | .invalidBranchName _ => "InvalidBranchNameError"
  | .operationTimedOut => "OperationTimedOutError"
  | .toolInvocationFailed => "ToolInvocationFailedError"

/-- All sorts of failures, where no rules are broken. -/
def Category.all : List Category :=
  [.general, .notARepository, .branchExists, .branchNotFound, .cannotDeleteCurrentBranch,
    .invalidBranchName [], .operationTimedOut, .toolInvocationFailed]

/-- The sort of failures that callers ask for by a name. -/
def Category.ofName? (name : String) : Option Category :=
  all.find? fun category => category.name = name

/-- The message of the failure outside every repository, unless another one is given. -/
def notARepositoryMessage : String :=
  "Not a git repository"

/-- The message of the failure of a name that breaks some rules: the wording of all, or a general
one when that is empty. -/
def rulesMessage (errors : List String) : String :=
  let wording := String.intercalate "; " errors
  if wording = "" then "Invalid branch name" else wording

/-- A message with details after it, if there are any. -/
def withDetails (message : String) (context : List (String × Value)) : String :=
  let details := context.map fun detail => detail.1 ++ "=" ++ detail.2.asText
  if context.isEmpty then message
  else message ++ " [" ++ String.intercalate ", " details ++ "]"

end Failure

/-- What an operation answers when it could not do what it was asked for. -/
structure Failure where
  category : Failure.Category
  message : Value
  context : List (String × Value) := []
  deriving Repr

namespace Failure

/-- The tag of a failure. -/
def kind (failure : Failure) : Kind :=
  failure.category.kind

/-- The message, with the details after it if there are any. A message that stands alone has to be a
text. -/
def text (failure : Failure) : Except Fault String :=
  match failure.message, failure.context with
  | .text s, context => .ok (withDetails s context)
  | v, [] => .error (.descriptionNotText v.kind)
  | v, context => .ok (withDetails v.asText context)

/-- A failure whose message is a text can be written. -/
theorem text_of_message {failure : Failure} {s : String} (h : failure.message = .text s) :
    failure.text = .ok (withDetails s failure.context) := by
  simp [text, h]

/-! ## Failures that a caller makes -/

/-- What a failure of a category is made of: a message, or the wordings of broken rules. -/
def Category.signature : Category → Signature
  | .invalidBranchName _ =>
    { operation := "InvalidBranchNameError.__init__", required := ["errors"] }
  | .notARepository => { operation := "NotARepositoryError.__init__", optional := ["message"] }
  | _ => { operation := "GitCacheError.__init__", required := ["message"] }

/-- The failure that a caller makes: of a category, and of what is given as its message or as the
wordings of broken rules. These are the members of a value, which all have to be texts. -/
def ofGiven (category : Category) (given : Option Value) : Except Fault Failure :=
  match category, given with
  | .invalidBranchName _, some rules =>
    rules.joinable.map fun errors => ⟨.invalidBranchName errors, .text (rulesMessage errors), []⟩
  | category, some message => .ok ⟨category, message, []⟩
  | category, none =>
    (category.signature.check []).map fun _ => ⟨category, .text notARepositoryMessage, []⟩

/-- The details that a value stands for: those of a record, or none for a value that counts as
no. -/
def contextOf : Value → Except Fault (List (String × Value))
  | .record fields => .ok fields
  | v => if v.truthy then .error (.attributeMissing v.kind "items") else .ok []

end Failure

end WorkTree
