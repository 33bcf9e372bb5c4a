import WorkTree.Listing.Branches
import WorkTree.Session.Reads

set_option relaxedAutoImplicit false
set_option autoImplicit false

/-!
# Branches of a repository

Making, checking out, deleting and listing branches. A new name is checked before git sees it, and
git is asked whether a branch exists before it is told to do something with it.

## Main definitions

* `WorkTree.Session.createBranch`, `WorkTree.Session.checkoutBranch`,
  `WorkTree.Session.deleteBranch`, `WorkTree.Session.listBranches` — the operations.
-/

namespace WorkTree

/-! ## Answers -/

/-- The answer of the operation that makes a branch. -/
structure BranchCreated where
  name : Value
  checkedOut : Flag
  deriving DecidableEq, Repr

/-- The answer of the operation that checks out a branch. -/
structure BranchCheckedOut where
  name : Value
  deriving DecidableEq, Repr

/-- The answer of the operation that deletes a branch. -/
structure BranchDeleted where
  name : Value
  force : Flag
  deriving DecidableEq, Repr

/-- The branches of a repository. -/
structure BranchListing where
  branches : List Branch
  current : Option String
  deriving DecidableEq, Repr

/-- The first branch with a name. -/
def BranchListing.find? (listing : BranchListing) (name : String) : Option Branch :=
  Branch.find? listing.branches name

namespace Session

/-! ## Operations -/

/-- Whether there is a local branch of a name. -/
def branchExists (w : Workspace) (name : Value) : Session Bool := do
  return (← git w (.showBranch name.asText)).ok

/-- Fails when there is no local branch of a name. -/
def requireBranch (w : Workspace) (name : Value) : Session Unit := do
  Action.ensure (← branchExists w name) (.branchMissing name)

/-- Makes a branch, and checks it out if that is asked for. -/
def createBranch (w : Workspace) (name : Value) (checkout : Flag) : Session BranchCreated := do
  requireRepository w
  let validation := BranchName.validateValue name
  Action.ensure validation.valid (.nameInvalid name validation.errors)
  Action.ensure (!(← branchExists w name)) (.branchExists name)
  let _ ← gitChecked w (if checkout.holds then .createAndCheckout name else .createBranch name)
  invalidate (if checkout.holds then .createBranchCheckout else .createBranch)
  log .info ("Created branch " ++ name.asText ++ if checkout.holds then " (checked out)" else "")
  return { name, checkedOut := checkout }

/-- Checks out a branch. -/
def checkoutBranch (w : Workspace) (name : Value) : Session BranchCheckedOut := do
  requireRepository w
  requireBranch w name
  let _ ← gitChecked w (.checkout name)
  invalidate .checkoutBranch
  log .info ("Checked out branch " ++ name.asText)
  return { name }

/-- Deletes a local branch other than the current one. A current branch that is not known has the
absent value for its name. -/
def deleteBranch (w : Workspace) (name : Value) (force : Flag) : Session BranchDeleted := do
  requireRepository w
  Action.ensure (Value.ofText? (← currentBranchName? w) != name) (.branchCheckedOut name)
  requireBranch w name
  let _ ← gitChecked w (.deleteBranch name force.holds)
  invalidate .deleteBranch
  log .info ("Deleted branch " ++ name.asText ++ if force.holds then " (forced)" else "")
  return { name, force }

/-- The local and the remote branches. -/
def listBranches (w : Workspace) : Session BranchListing := do
  requireRepository w
  let output ← gitChecked w .listRefs
  let current ← currentBranchName? w
  return { branches := Branch.ofListing current output, current }

end Session

end WorkTree
