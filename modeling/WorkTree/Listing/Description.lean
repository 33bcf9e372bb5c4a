import WorkTree.Listing.Branches
import WorkTree.Signature
import WorkTree.Value.Agreement

set_option relaxedAutoImplicit false
set_option autoImplicit false

/-!
# Described branches

A caller may describe branches with any values and look for one among them. Names are compared as
far as they agree.

## Main definitions

* `WorkTree.BranchDescription`, `WorkTree.BranchDescription.ofNamed` — a described branch, and the
  one that names and values describe.
* `WorkTree.BranchDescription.find?` — the first branch with a name.
* `WorkTree.Branch.description` — the description of a branch in a listing.

## Main results

* `WorkTree.BranchDescription.find?_map_description` — among the descriptions of listed branches,
  the one is found that is found among these branches.
-/

namespace WorkTree

/-- A branch as a caller describes it. -/
structure BranchDescription where
  name : Value
  current : Value
  remote : Value

/-- The description of a branch in a listing. -/
def Branch.description (branch : Branch) : BranchDescription :=
  ⟨.text branch.name, .bool branch.current, .bool branch.remote⟩

namespace BranchDescription

/-- What a branch is described by: its name, and whether it is the current and a remote one. -/
def signature : Signature where
  operation := "BranchDescriptor.__init__"
  required := ["name"]
  optional := ["current", "remote"]
  bound := ["self"]

/-- The branch that names and values describe. -/
def ofNamed (fields : List (String × Value)) : Except Fault BranchDescription :=
  signature.apply fields fun value =>
    ⟨value "name" .null, value "current" (.bool false), value "remote" (.bool false)⟩

/-- The first branch with a name. -/
def find? (branches : List BranchDescription) (name : Value) : Option BranchDescription :=
  branches.find? fun branch => branch.name.agrees name

/-- Among the descriptions of listed branches, the one is found that is found among these
branches. -/
theorem find?_map_description (branches : List Branch) (name : String) :
    find? (branches.map Branch.description) (.text name) =
      (Branch.find? branches name).map Branch.description := by
  induction branches with
  | nil => rfl
  | cons branch rest ih =>
    by_cases h : branch.name = name
    · simp [find?, Branch.find?, Branch.description, h]
    · simpa [find?, Branch.find?, Branch.description, h] using ih

end BranchDescription

end WorkTree
