import WorkTree.Text.Blank
import WorkTree.Text.Line

set_option relaxedAutoImplicit false
set_option autoImplicit false

/-!
# Listings of branches

Git lists references one per line by their full names. Those below `refs/heads/` are local branches
and those below `refs/remotes/` remote ones, save the pointers that are called `HEAD` there; other
lines are passed over.

## Main definitions

* `WorkTree.Branch` — a branch in a listing.
* `WorkTree.Branch.ofRef?` — the branch that a reference stands for.
* `WorkTree.Branch.ofListing` — the branches of a listing.
* `WorkTree.Branch.ref`, `WorkTree.Branch.listing` — writing references and listings.
* `WorkTree.Listing.mergedNames` — the names in a listing of short names, without some of them.
-/

namespace WorkTree

/-- A branch in a listing. -/
structure Branch where
  name : String
  current : Bool := false
  remote : Bool := false
  deriving DecidableEq, Repr

namespace Branch

/-- What the references of local branches begin with. -/
def headsRoot : List Char :=
  ['r', 'e', 'f', 's', '/', 'h', 'e', 'a', 'd', 's', '/']

/-- What the references of remote branches begin with. -/
def remotesRoot : List Char :=
  ['r', 'e', 'f', 's', '/', 'r', 'e', 'm', 'o', 't', 'e', 's', '/']

/-- What the references of the pointers to the remote's own branch end in. -/
def headEnding : List Char :=
  ['/', 'H', 'E', 'A', 'D']

/-- What follows `lead` in a text that begins with it. -/
def after? : List Char → List Char → Option (List Char)
  | [], s => some s
  | _ :: _, [] => none
  | a :: lead, b :: s => if a = b then after? lead s else none

/-- The branch that a reference stands for. A local branch is the current one when it has that
name; a remote branch never is. -/
def ofRef? (current : Option String) (ref : List Char) : Option Branch :=
  match after? headsRoot ref, after? remotesRoot ref with
  | some name, _ =>
    let name := String.ofList name
    some { name, current := current = some name, remote := false }
  | none, some name =>
    if headEnding.isSuffixOf name then none
    else some { name := String.ofList name, current := false, remote := true }
  | none, none => none

/-- The branches of a listing, in its order. -/
def ofListing (current : Option String) (listing : String) : List Branch :=
  (Text.lines listing.toList).filterMap fun line => ofRef? current (Text.trim line)

/-- The first branch with a name. -/
def find? (branches : List Branch) (name : String) : Option Branch :=
  branches.find? fun branch => branch.name = name

/-! ## Writing -/

/-- The reference of a branch. -/
def ref (branch : Branch) : List Char :=
  (if branch.remote then remotesRoot else headsRoot) ++ branch.name.toList

/-- References one per line, each with a line feed. -/
def listing (refs : List (List Char)) : String :=
  String.ofList (refs.flatMap fun ref => ref ++ ['\n'])

end Branch

/-- The names in a listing of short names, one per line, in its order: blanks around a name are
dropped, and so are empty lines and the names that are kept out. -/
def Listing.mergedNames (keptOut : List String) (listing : String) : List String :=
  ((Text.lines listing.toList).map fun line => String.ofList (Text.trim line)).filter
    fun name => name ≠ "" && !keptOut.contains name

end WorkTree
