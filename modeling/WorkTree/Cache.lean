import WorkTree.Signature
import WorkTree.Value.Members

set_option relaxedAutoImplicit false
set_option autoImplicit false

/-!
# The cache of a session

One slot for each question that is asked again and again. A slot is unset or holds the last value
that the question produced; a false truth value and an empty text are values like any other. A
caller may put any value into a slot, and the absent value unsets it.

## Main definitions

* `WorkTree.Slot` — the slots, with their names.
* `WorkTree.Cache` — the slots with what they hold.
* `WorkTree.Cache.get`, `WorkTree.Cache.set`, `WorkTree.Cache.isSet`, `WorkTree.Cache.invalidate`,
  `WorkTree.Cache.clear`, `WorkTree.Cache.snapshot` — the operations.
* `WorkTree.Cache.ofNamed` — the cache that names and values describe.
* `WorkTree.Mutation`, `WorkTree.Mutation.invalidates` — the operations that change a repository,
  and the slots that each of them outdates.

## Main results

* `WorkTree.Cache.get_write`, `WorkTree.Cache.get_invalidate`, `WorkTree.Cache.get_clear` — what a
  slot holds after it was written to, after some slots were unset, and after all were.
-/

namespace WorkTree

/-! ## Slots -/

/-- The questions whose answers are kept. -/
inductive Slot where
  | isRepository
  | version
  | status
  | branch
  | remotes
  deriving DecidableEq, Repr

namespace Slot

/-- All slots, in the order in which they are shown. -/
def all : List Slot :=
  [.isRepository, .version, .status, .branch, .remotes]

/-- The name of a slot. -/
def name : Slot → String
  | .isRepository => "is_git_repo"
  | .version => "git_version"
  | .status => "git_status"
  | .branch => "git_branch"
  | .remotes => "git_remote"

/-- The slot of a name, if it is that of one. -/
def ofName? (name : String) : Option Slot :=
  all.find? fun slot => slot.name = name

/-- The slot that a value names. -/
def ofValue (v : Value) : Except Fault Slot :=
  match v.text?.bind ofName? with
  | some slot => .ok slot
  | none => .error (.slotUnknown v)

end Slot

/-! ## The cache -/

/-- The slots with what they hold; `none` means unset. -/
structure Cache where
  isRepository : Option Value := none
  version : Option Value := none
  status : Option Value := none
  branch : Option Value := none
  remotes : Option Value := none
  deriving DecidableEq, Repr

namespace Cache

/-- What a slot holds. -/
def get (cache : Cache) : Slot → Option Value
  | .isRepository => cache.isRepository
  | .version => cache.version
  | .status => cache.status
  | .branch => cache.branch
  | .remotes => cache.remotes

/-- The cache with something else in a slot, or with the slot unset. -/
def write (cache : Cache) (slot : Slot) (content : Option Value) : Cache :=
  match slot with
  | .isRepository => { cache with isRepository := content }
  | .version => { cache with version := content }
  | .status => { cache with status := content }
  | .branch => { cache with branch := content }
  | .remotes => { cache with remotes := content }

/-- Puts a value into a slot; the absent value unsets the slot. -/
def set (cache : Cache) (slot : Slot) (value : Value) : Cache :=
  cache.write slot value.toOption

/-- Whether a slot holds a value. -/
def isSet (cache : Cache) (slot : Slot) : Bool :=
  (cache.get slot).isSome

/-- Unsets some slots. -/
def invalidate (cache : Cache) (slots : List Slot) : Cache :=
  slots.foldl (fun cache slot => cache.write slot none) cache

/-- Unsets every slot. -/
def clear (cache : Cache) : Cache :=
  cache.invalidate Slot.all

/-- The names of the slots with what they hold, in their order. -/
def snapshot (cache : Cache) : List (String × Option Value) :=
  [(Slot.name .isRepository, cache.isRepository), (Slot.name .version, cache.version),
    (Slot.name .status, cache.status), (Slot.name .branch, cache.branch),
    (Slot.name .remotes, cache.remotes)]

/-- What a cache is made of: a value for each slot, all of which may be left out. -/
def signature : Signature where
  operation := "GitCache.__init__"
  optional := Slot.all.map Slot.name
  bound := ["self"]

/-- The cache whose slots hold the values given under their names. -/
def ofNamed (fields : List (String × Value)) : Except Fault Cache :=
  signature.apply fields fun value =>
    Slot.all.foldl (fun cache slot => cache.set slot (value slot.name .null)) {}

/-- A slot holds what was written to it, and the other slots what they held. -/
@[simp]
theorem get_write (cache : Cache) (slot slot' : Slot) (content : Option Value) :
    (cache.write slot content).get slot' = if slot' = slot then content else cache.get slot' := by
  cases slot <;> cases slot' <;> simp [write, get]

/-- Unsetting slots unsets these and leaves the others. -/
theorem get_invalidate (cache : Cache) (slots : List Slot) (slot : Slot) :
    (cache.invalidate slots).get slot = if slot ∈ slots then none else cache.get slot := by
  unfold invalidate
  induction slots generalizing cache with
  | nil => simp
  | cons first rest ih =>
    rw [List.foldl_cons, ih, get_write]
    by_cases hfirst : slot = first <;> simp [hfirst]

/-- A cleared cache holds nothing. -/
theorem get_clear (cache : Cache) (slot : Slot) : cache.clear.get slot = none := by
  rw [clear, get_invalidate, if_pos (by cases slot <;> decide)]

end Cache

/-! ## Mutations -/

/-- The operations that change a repository. -/
inductive Mutation where
  | createBranch
  | createBranchCheckout
  | checkoutBranch
  | deleteBranch
  | commitChanges
  | pushChanges
  | cleanupMergedBranches
  deriving DecidableEq, Repr

namespace Mutation

/-- All mutations. -/
def all : List Mutation :=
  [.createBranch, .createBranchCheckout, .checkoutBranch, .deleteBranch, .commitChanges,
    .pushChanges, .cleanupMergedBranches]

/-- The name of a mutation. -/
def name : Mutation → String
  | .createBranch => "create_branch"
  | .createBranchCheckout => "create_branch_checkout"
  | .checkoutBranch => "checkout_branch"
  | .deleteBranch => "delete_branch"
  | .commitChanges => "commit_changes"
  | .pushChanges => "push_changes"
  | .cleanupMergedBranches => "cleanup_merged_branches"

/-- The mutation of a name, if it is that of one. -/
def ofName? (name : String) : Option Mutation :=
  all.find? fun mutation => mutation.name = name

/-- The mutation that a value names. -/
def ofValue (v : Value) : Except Fault Mutation :=
  match v.requireHashable, v.text?.bind ofName? with
  | .error fault, _ => .error fault
  | .ok (), some mutation => .ok mutation
  | .ok (), none => .error (.keyUnknown v)

/-- The slots that a mutation outdates. -/
def invalidates : Mutation → List Slot
  | .createBranchCheckout => [.branch]
  | .checkoutBranch => [.branch, .status]
  | .commitChanges => [.status]
  | .createBranch | .deleteBranch | .pushChanges | .cleanupMergedBranches => []

end Mutation

end WorkTree
