import WorkTree.Number.Double
import WorkTree.Path
import WorkTree.Text.Quoted

set_option relaxedAutoImplicit false
set_option autoImplicit false

/-!
# Loosely typed values

Settings, log levels, commit messages and the details of a failure reach the library as values of
no fixed type, and some are written back as text. A text or a path stands for itself at the top
level and is quoted inside a list or a record; everything else is written the same way in both
places.

## Main definitions

* `WorkTree.Value` — a value of no fixed type; equality of values is decidable.
* `WorkTree.Value.kind` — the name that messages use for its type.
* `WorkTree.Value.asText`, `WorkTree.Value.literal` — the value as a text, alone and inside another.
* `WorkTree.Value.text?`, `WorkTree.Value.ofText?` — the text that a value is, and the way back.
* `WorkTree.Value.truthy` — whether the value counts as yes.
* `WorkTree.Value.toOption` — the value, unless it is the absent one.
* `WorkTree.Flag` — a choice between yes and no, as a caller makes it.

## Main results

* `WorkTree.Value.same_iff` — the comparison of values is equality.
-/

namespace WorkTree

/-- A value of no fixed type, as a caller hands it in. -/
inductive Value where
  | null
  | bool (b : Bool)
  | int (n : Int)
  | real (x : Double)
  | text (s : String)
  | path (p : Path)
  | list (items : List Value)
  | record (fields : List (String × Value))
  deriving Repr, Inhabited

namespace Value

/-! ## Equality -/

mutual

/-- Compares two values. -/
def same : Value → Value → Bool
  | .null, .null => true
  | .bool a, .bool b => a == b
  | .int m, .int n => m == n
  | .real x, .real y => x == y
  | .text s, .text t => s == t
  | .path p, .path q => p == q
  | .list items, .list items' => sameItems items items'
  | .record fields, .record fields' => sameFields fields fields'
  | _, _ => false

/-- Compares the members of two lists. -/
def sameItems : List Value → List Value → Bool
  | [], [] => true
  | v :: rest, w :: rest' => same v w && sameItems rest rest'
  | _, _ => false

/-- Compares the fields of two records. -/
def sameFields : List (String × Value) → List (String × Value) → Bool
  | [], [] => true
  | (name, v) :: rest, (name', w) :: rest' => name == name' && same v w && sameFields rest rest'
  | _, _ => false

end

mutual

/-- Every value is the same as itself. -/
theorem same_self : ∀ v : Value, same v v = true
  | .null => rfl
  | .bool _ | .int _ | .real _ | .text _ | .path _ => by simp [same]
  | .list items => sameItems_self items
  | .record fields => sameFields_self fields

/-- Every list has the same members as itself. -/
theorem sameItems_self : ∀ items : List Value, sameItems items items = true
  | [] => rfl
  | v :: rest => by simp [sameItems, same_self v, sameItems_self rest]

/-- Every record has the same fields as itself. -/
theorem sameFields_self : ∀ fields : List (String × Value), sameFields fields fields = true
  | [] => rfl
  | (_, v) :: rest => by simp [sameFields, same_self v, sameFields_self rest]

end

mutual

/-- Values that compare as the same are equal. -/
theorem eq_of_same : ∀ {v w : Value}, same v w = true → v = w
  | .null, w, h => by cases w <;> simp_all [same]
  | .bool _, w, h => by cases w <;> simp_all [same]
  | .int _, w, h => by cases w <;> simp_all [same]
  | .real _, w, h => by cases w <;> simp_all [same]
  | .text _, w, h => by cases w <;> simp_all [same]
  | .path _, w, h => by cases w <;> simp_all [same]
  | .list items, w, h => by
    cases w with
    | list items' => exact congrArg Value.list (eq_of_sameItems h)
    | _ => simp [same] at h
  | .record fields, w, h => by
    cases w with
    | record fields' => exact congrArg Value.record (eq_of_sameFields h)
    | _ => simp [same] at h

/-- Lists with the same members are equal. -/
theorem eq_of_sameItems : ∀ {items items' : List Value}, sameItems items items' = true →
    items = items'
  | [], items', h => by cases items' <;> simp_all [sameItems]
  | v :: rest, [], h => by simp [sameItems] at h
  | v :: rest, w :: rest', h => by
    simp only [sameItems, Bool.and_eq_true] at h
    rw [eq_of_same h.1, eq_of_sameItems h.2]

/-- Records with the same fields are equal. -/
theorem eq_of_sameFields : ∀ {fields fields' : List (String × Value)},
    sameFields fields fields' = true → fields = fields'
  | [], fields', h => by cases fields' <;> simp_all [sameFields]
  | _ :: _, [], h => by simp [sameFields] at h
  | (name, v) :: rest, (name', w) :: rest', h => by
    simp only [sameFields, Bool.and_eq_true, beq_iff_eq] at h
    rw [h.1.1, eq_of_same h.1.2, eq_of_sameFields h.2]

end

/-- Two values compare as the same exactly when they are equal. -/
theorem same_iff {v w : Value} : same v w = true ↔ v = w :=
  ⟨eq_of_same, fun h => h ▸ same_self v⟩

instance : DecidableEq Value := fun _ _ => decidable_of_iff _ same_iff

/-! ## Texts -/

/-- The name of the value's type in messages. -/
def kind : Value → String
  | .null => "NoneType"
  | .bool _ => "bool"
  | .int _ => "int"
  | .real _ => "float"
  | .text _ => "str"
  | .path _ => "PosixPath"
  | .list _ => "list"
  | .record _ => "dict"

/-- How the three named constants are written. -/
def constantText : Option Bool → String
  | none => "None"
  | some true => "True"
  | some false => "False"

mutual

/-- The value as it is written inside a list or a record. -/
def literal : Value → String
  | .null => constantText none
  | .bool b => constantText (some b)
  | .int n => toString n
  | .real x => x.text
  | .text s => Text.quoted s
  | .path p => "PosixPath(" ++ Text.quoted p.text ++ ")"
  | .list items => "[" ++ String.intercalate ", " (literals items) ++ "]"
  | .record fields => "\x7b" ++ String.intercalate ", " (fieldLiterals fields) ++ "\x7d"

/-- The members of a list, as they are written inside it. -/
def literals : List Value → List String
  | [] => []
  | v :: rest => literal v :: literals rest

/-- The fields of a record, as they are written inside it. -/
def fieldLiterals : List (String × Value) → List String
  | [] => []
  | (name, v) :: rest => (Text.quoted name ++ ": " ++ literal v) :: fieldLiterals rest

end

/-- The value as a text of its own. -/
def asText : Value → String
  | .text s => s
  | .path p => p.text
  | v => literal v

/-- The text that a value is, if it is one. -/
def text? : Value → Option String
  | .text s => some s
  | _ => none

/-- A text as a value, or the absent value in its place. -/
def ofText? : Option String → Value
  | none => .null
  | some s => .text s

/-! ## Presence and truth -/

/-- Whether the value is the absent one. -/
def isNull : Value → Bool
  | .null => true
  | _ => false

/-- The value, unless it is the absent one. -/
def toOption : Value → Option Value
  | .null => none
  | v => some v

/-- Whether the value counts as yes: the absent value, zero and what is empty do not, and every path
does. -/
def truthy : Value → Bool
  | .null => false
  | .bool b => b
  | .int n => n ≠ 0
  | .real x => !x.isZero
  | .text s => s ≠ ""
  | .path _ => true
  | .list items => !items.isEmpty
  | .record fields => !fields.isEmpty

end Value

/-- A choice between yes and no, as a caller makes it: with any value, which answers show again. -/
structure Flag where
  given : Value
  deriving DecidableEq, Repr

namespace Flag

/-- What the choice is. -/
def holds (flag : Flag) : Bool :=
  flag.given.truthy

instance : Coe Bool Flag :=
  ⟨fun b => ⟨.bool b⟩⟩

end Flag

end WorkTree
