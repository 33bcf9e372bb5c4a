import WorkTree.Value

set_option relaxedAutoImplicit false
set_option autoImplicit false

/-!
# Values that agree

Two values agree when they stand for the same thing although they may differ in type: numbers of
every type, truth values among them, are compared as numbers, and the order of the fields in a
record does not matter. What is no number agrees with nothing, but lists and records that are the
same agree whatever is inside.

## Main definitions

* `WorkTree.Value.quotient?` — the number that a value is, as a quotient of integers.
* `WorkTree.Value.agrees` — whether two values agree.

## Main results

* `WorkTree.Value.agrees_text` — texts agree only when they are equal.
-/

namespace WorkTree.Value

/-- The number that a value is, as a quotient of integers; a truth value is one or zero. -/
def quotient? : Value → Option (Int × Nat)
  | .bool b => some (b.toNat, 1)
  | .int n => some (n, 1)
  | .real (.finite x) => some x.quotient
  | .real _ | .null | .text _ | .path _ | .list _ | .record _ => none

mutual

/-- Whether two values agree. -/
def agrees : Value → Value → Bool
  | .null, .null => true
  | .text s, .text t => s == t
  | .path p, .path q => p == q
  | .real x, .real y => x.agrees y
  | .list items, .list items' => agreeItems items items'
  | .record fields, .record fields' =>
    fields.length == fields'.length && agreeFields fields fields'
  | v, w =>
    match v.quotient?, w.quotient? with
    | some (n, d), some (n', d') => n * d' == n' * d
    | _, _ => false

/-- Whether the items of two lists agree one by one. -/
def agreeItems : List Value → List Value → Bool
  | [], [] => true
  | v :: rest, w :: rest' => (same v w || agrees v w) && agreeItems rest rest'
  | _, _ => false

/-- Whether some fields agree with the fields of the same names among others. -/
def agreeFields : List (String × Value) → List (String × Value) → Bool
  | [], _ => true
  | (name, v) :: rest, fields =>
    (match fields.lookup name with
      | some w => same v w || agrees v w
      | none => false) && agreeFields rest fields

end

/-- Texts agree only when they are equal. -/
@[simp]
theorem agrees_text (s t : String) : agrees (.text s) (.text t) = (s == t) := by
  simp [agrees]

end WorkTree.Value
