import WorkTree.Session.Call
import WorkTree.Signature

set_option relaxedAutoImplicit false
set_option autoImplicit false

/-!
# Requests to a session

A caller asks for an operation by its name and gives arguments by theirs. Arguments may be any
values; the call takes them as they are.

## Main definitions

* `WorkTree.Call.Form`, `WorkTree.Call.forms` — what an operation takes, and the call that it comes
  to.
* `WorkTree.Call.ofNamed` — the call that a request comes to.

## Main results

* `WorkTree.Call.ofNamed_eq_ok` — a request whose arguments fit comes to the call of its form.
-/

namespace WorkTree.Call

/-- What an operation takes, and the call that it comes to when the values of its arguments are
looked up by their names, with defaults. -/
structure Form where
  required : List String := []
  optional : List String := []
  bound : List String := ["self"]
  call : (String → Value → Value) → Call

/-- The choice between yes and no under a name. -/
def flag (value : String → Value → Value) (name : String) : Flag :=
  ⟨value name (.bool false)⟩

/-- The operations with their forms. -/
def forms : List (String × Form) :=
  [("check_git_installation", { call := fun _ => .checkInstallation }),
    ("is_git_repository", { call := fun _ => .isRepository }),
    ("get_git_status", { call := fun _ => .status }),
    ("get_current_branch", { call := fun _ => .currentBranch }),
    ("get_git_remotes", { call := fun _ => .remotes }),
    ("get_repository_health", { call := fun _ => .health }),
    ("get_comprehensive_git_info", { call := fun _ => .overview }),
    ("validate_branch_name",
      { required := ["name"], optional := ["prefix"], bound := []
        call := fun value =>
          .validateBranchName (value "name" .null) (value "prefix" (.text "")) }),
    ("create_branch",
      { required := ["name"], optional := ["checkout"]
        call := fun value => .createBranch (value "name" .null) (flag value "checkout") }),
    ("checkout_branch",
      { required := ["name"], call := fun value => .checkoutBranch (value "name" .null) }),
    ("delete_branch",
      { required := ["name"], optional := ["force"]
        call := fun value => .deleteBranch (value "name" .null) (flag value "force") }),
    ("list_branches", { call := fun _ => .listBranches }),
    ("commit_changes",
      { required := ["message"], optional := ["files"]
        call := fun value => .commit (value "message" .null) (value "files" .null) }),
    ("push_changes",
      { optional := ["remote", "branch"]
        call := fun value =>
          .push (value "remote" (.text Session.defaultRemote)) (value "branch" .null) }),
    ("cleanup_merged_branches",
      { required := ["target_branch"], optional := ["dry_run"]
        call := fun value =>
          .cleanup (value "target_branch" .null) (flag value "dry_run").holds }),
    ("clear_cache", { call := fun _ => .clearCache })]

/-- The operation that asks for the version in the cache. It takes no notice of arguments. -/
def versionOperation : String :=
  "git_version"

/-- The names of what a session has beside operations, and how messages call what it is. -/
def parts : List (String × String) :=
  [("handle", "RepositoryHandle"), ("project_path", "PosixPath"), ("timeout", "int"),
    ("cache", "GitCache")]

/-- How the whole of the operations is called in messages. -/
def owner : String :=
  "RepositoryManager"

/-- The signature of an operation of this form. -/
def Form.signature (form : Form) (operation : String) : Signature :=
  { operation := owner ++ "." ++ operation
    required := form.required
    optional := form.optional
    bound := form.bound }

/-- The call that a request comes to. -/
def ofNamed (operation : String) (arguments : List (String × Value)) : Except Fault Call :=
  if operation = versionOperation then .ok .version
  else
    match forms.lookup operation, parts.lookup operation with
    | some form, _ => (form.signature operation).apply arguments form.call
    | none, some kind => .error (.notCallable kind)
    | none, none => .error (.attributeMissing owner operation)

/-- A request whose arguments fit comes to the call of its form. -/
theorem ofNamed_eq_ok {operation : String} {arguments : List (String × Value)} {form : Form}
    (hversion : operation ≠ versionOperation) (hform : forms.lookup operation = some form)
    (hfit : (form.signature operation).check (arguments.map Prod.fst) = .ok ()) :
    ofNamed operation arguments =
      .ok (form.call fun name default => (arguments.lookup name).getD default) := by
  simp [ofNamed, hversion, hform, Signature.apply, hfit, Except.map]

end WorkTree.Call
