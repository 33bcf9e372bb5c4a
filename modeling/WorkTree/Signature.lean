import WorkTree.Fault

set_option relaxedAutoImplicit false
set_option autoImplicit false

/-!
# Signatures

An operation has a name and takes arguments by their names; some of them have to be given and the
others have defaults. What a caller gives fits the signature when it names only these arguments and
all that have to be given. Names that the operation does not know are refused before missing ones.

## Main definitions

* `WorkTree.Signature` — an operation with the names of its arguments.
* `WorkTree.Signature.check` — refuses what does not fit.
* `WorkTree.Signature.apply` — makes something of arguments that fit.

## Main results

* `WorkTree.Signature.check_eq_ok_iff` — what fits.
-/

namespace WorkTree

/-- An operation, the arguments that it has to be given, those that have a default, and those that
it is given in any case. -/
structure Signature where
  operation : String
  required : List String := []
  optional : List String := []
  bound : List String := []

namespace Signature

/-- What is wrong with an argument of this name. -/
def fault? (signature : Signature) (name : String) : Option Fault :=
  if name ∈ signature.bound then some (.argumentTwice signature.operation name)
  else if name ∈ signature.required ++ signature.optional then none
  else some (.argumentUnexpected signature.operation name)

/-- Refuses the names of arguments that do not fit: the first wrong one, or else all missing ones
together. -/
def check (signature : Signature) (names : List String) : Except Fault Unit :=
  match names.findSome? signature.fault?, signature.required.filter (· ∉ names) with
  | some fault, _ => .error fault
  | none, [] => .ok ()
  | none, missing => .error (.argumentsMissing signature.operation missing)

/-- What is made of some arguments, once their names fit; each of them is looked up by its name, and
has its default where it is not given. -/
def apply {α : Type} (signature : Signature) (arguments : List (String × Value))
    (make : (String → Value → Value) → α) : Except Fault α :=
  (signature.check (arguments.map Prod.fst)).map fun _ =>
    make fun name default => (arguments.lookup name).getD default

/-- Names fit when each of them is that of an argument that the caller can give, and all arguments
are there that have to be. -/
theorem check_eq_ok_iff (signature : Signature) (names : List String) :
    signature.check names = .ok () ↔
      (∀ name ∈ names, signature.fault? name = none) ∧
        ∀ name ∈ signature.required, name ∈ names := by
  unfold check
  cases h : names.findSome? signature.fault? with
  | some fault =>
    obtain ⟨name, hname, hfault⟩ := List.exists_of_findSome?_eq_some h
    simp only [reduceCtorEq, false_iff, not_and]
    intro hall
    rw [hall name hname] at hfault
    cases hfault
  | none =>
    rw [List.findSome?_eq_none_iff] at h
    cases hm : signature.required.filter (· ∉ names) with
    | nil =>
      rw [List.filter_eq_nil_iff] at hm
      simpa using ⟨h, fun name hname => by simpa using hm name hname⟩
    | cons name rest =>
      have hmem : name ∈ signature.required.filter (· ∉ names) := by
        rw [hm]
        exact List.mem_cons_self
      rw [List.mem_filter] at hmem
      simp only [reduceCtorEq, false_iff, not_and]
      intro _ hall
      exact absurd (hall name hmem.1) (by simpa using hmem.2)

end Signature

end WorkTree
