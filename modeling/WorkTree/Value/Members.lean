import WorkTree.Value.Texts

set_option relaxedAutoImplicit false
set_option autoImplicit false

/-!
# The members of a value

A text has its characters as members, a list its items and a record its names; no other value has
members. Whether a value can be looked up in a set depends on whether it can be changed later, as
lists and records can.

## Main definitions

* `WorkTree.Value.members?` — the members of a value, if it has some.
* `WorkTree.Value.members`, `WorkTree.Value.joinable`, `WorkTree.Value.size` — the members and how
  many they are, where a value without any is refused.
* `WorkTree.Value.requireHashable` — refuses what cannot be looked up in a set.

## Main results

* `WorkTree.Value.joinable_list_map` — the members of a list of texts are these texts.
-/

namespace WorkTree.Value

/-- The members of a value, if it has some. -/
def members? : Value → Option (List Value)
  | .text s => some (s.toList.map fun c => .text c.toString)
  | .list items => some items
  | .record fields => some (fields.map fun field => .text field.1)
  | .null | .bool _ | .int _ | .real _ | .path _ => none

/-- The members of a value that is gone through one by one. -/
def members (v : Value) : Except Fault (List Value) :=
  match v.members? with
  | some values => .ok values
  | none => .error (.notIterable v.kind)

/-- The members of a value that are joined to a text, which all have to be texts. -/
def joinable (v : Value) : Except Fault (List String) :=
  match v.members? with
  | some values => texts values
  | none => .error .notJoinable

/-- How many members a value has. -/
def size (v : Value) : Except Fault Nat :=
  match v.members? with
  | some values => .ok values.length
  | none => .error (.notMeasurable v.kind)

/-- Refuses lists and records, which cannot be looked up in a set. -/
def requireHashable : Value → Except Fault Unit
  | .list items => .error (.notHashable (Value.list items).kind)
  | .record fields => .error (.notHashable (Value.record fields).kind)
  | _ => .ok ()

/-- The members of a list of texts are these texts. -/
@[simp]
theorem joinable_list_map (ss : List String) : joinable (.list (ss.map Value.text)) = .ok ss := by
  simp [joinable, members?]

end WorkTree.Value
