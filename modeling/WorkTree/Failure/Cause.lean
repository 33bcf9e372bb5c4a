import WorkTree.BranchName.Basic
import WorkTree.Failure.Basic
import WorkTree.Runner.Completion
import WorkTree.Runner.TimeLimit

set_option relaxedAutoImplicit false
set_option autoImplicit false

/-!
# Causes of failures

Why an operation could not do what it was asked for: either a command could not be run or did not
succeed, or the session refuses to go on.

## Main definitions

* `WorkTree.Cause` — the causes.
* `WorkTree.Cause.category`, `WorkTree.Cause.message`, `WorkTree.Cause.context` — what sort of
  failure a cause leads to, the wording of it, and its details.
* `WorkTree.Cause.failure` — the failure that a cause is answered with; `text` writes it.

## Main results

* `WorkTree.Cause.text_failure` — the failure of every cause can be written.
-/

namespace WorkTree

/-- Why an operation failed. -/
inductive Cause where
  /-- The directory that a command was to run in does not exist. -/
  | directoryMissing (directory : Path) (args : List Value)
  /-- A command did not end within the time limit. -/
  | timedOut (directory : Path) (args : List String) (limit : TimeLimit)
  /-- There is no such program. -/
  | programMissing (directory : Path) (args : List String)
  /-- The operating system could not start the program. -/
  | notStarted (directory : Path) (args : List String) (reason : String)
  /-- A command ended with an exit code other than zero. -/
  | exited (directory : Path) (args : List String) (completion : Completion)
  /-- The directory of the session lies in no repository. -/
  | notARepository (directory : Path)
  /-- No branch is checked out. -/
  | headDetached (directory : Path)
  /-- The question for the current branch, with these arguments, failed for another reason. -/
  | headUnreadable (args : List String) (completion : Completion)
  /-- A new branch has a name that breaks some rules. -/
  | nameInvalid (name : Value) (violations : List BranchName.Violation)
  /-- A new branch has the name of an existing one. -/
  | branchExists (name : Value)
  /-- There is no branch of this name. -/
  | branchMissing (name : Value)
  /-- The branch to delete is the current one. -/
  | branchCheckedOut (name : Value)
  deriving DecidableEq, Repr

namespace Cause

/-- The message of a command that ran out of time, with the limit in milliseconds. -/
def timeoutMessage (args : List String) (milliseconds : String) : String :=
  "git " ++ commandLine args ++ " timed out after " ++ milliseconds ++ " ms"

/-- The sort of failure that a cause leads to. -/
def category : Cause → Failure.Category
  | .directoryMissing _ _ | .programMissing _ _ | .notStarted _ _ _ | .exited _ _ _
  | .headDetached _ | .headUnreadable _ _ => .toolInvocationFailed
  | .timedOut _ _ _ => .operationTimedOut
  | .notARepository _ => .notARepository
  | .nameInvalid _ violations =>
    .invalidBranchName (violations.map BranchName.Violation.message)
  | .branchExists _ => .branchExists
  | .branchMissing _ => .branchNotFound
  | .branchCheckedOut _ => .cannotDeleteCurrentBranch

/-- The wording of a cause. -/
def message : Cause → String
  | .directoryMissing _ _ => "Repository path does not exist"
  | .timedOut _ args limit => timeoutMessage args limit.value.asText
  | .programMissing _ _ => "git executable not found on PATH"
  | .notStarted _ _ _ => "Failed to start git"
  | .exited _ args completion | .headUnreadable args completion => completion.failureDetail args
  | .notARepository _ => Failure.notARepositoryMessage
  | .headDetached _ => "HEAD is detached"
  | .nameInvalid _ violations =>
    Failure.rulesMessage (violations.map BranchName.Violation.message)
  | .branchExists name => "Branch " ++ name.asText ++ " already exists"
  | .branchMissing name => "Branch " ++ name.asText ++ " does not exist"
  | .branchCheckedOut name =>
    "Cannot delete branch " ++ name.asText ++ ": it is currently checked out"

/-- Where a command was to run, and its arguments. -/
def invocationDetails (directory : Path) (args : List Value) : List (String × Value) :=
  [("cwd", .text directory.text), ("args", .list args)]

/-- The details of a cause. -/
def context : Cause → List (String × Value)
  | .directoryMissing directory args => invocationDetails directory args
  | .timedOut directory args _ | .programMissing directory args =>
    invocationDetails directory (args.map .text)
  | .notStarted directory args reason =>
    invocationDetails directory (args.map .text) ++ [("error", .text reason)]
  | .exited directory args completion =>
    invocationDetails directory (args.map .text) ++ [("returncode", completion.code)]
  | .headUnreadable _ completion => [("returncode", completion.code)]
  | .notARepository directory | .headDetached directory => [("path", .text directory.text)]
  | .nameInvalid name _ | .branchExists name | .branchMissing name | .branchCheckedOut name =>
    [("branch", name)]

/-- The failure that a cause is answered with. -/
def failure (cause : Cause) : Failure :=
  ⟨cause.category, .text cause.message, cause.context⟩

/-- The tag of the failure. -/
def kind (cause : Cause) : Failure.Kind :=
  cause.failure.kind

/-- The failure with its details as a text. -/
def text (cause : Cause) : String :=
  Failure.withDetails cause.message cause.context

/-- The failure of every cause can be written. -/
@[simp]
theorem text_failure (cause : Cause) : cause.failure.text = .ok cause.text :=
  Failure.text_of_message rfl

end Cause

end WorkTree
