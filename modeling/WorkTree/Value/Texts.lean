import WorkTree.Fault
import WorkTree.Value

set_option relaxedAutoImplicit false
set_option autoImplicit false

/-!
# Values that have to be texts

Where texts are put together, nothing else will do. In a list the first value of another kind is
refused, with its position.

## Main definitions

* `WorkTree.Value.texts` — the texts that the members of a list are.
* `WorkTree.Value.textFor` — the text that a value is, where an attribute that only texts have is
  wanted.
* `WorkTree.Value.toName` — the name that a value is.
* `WorkTree.Value.behind` — a text with a value behind it.
* `WorkTree.Value.toPath` — the path that a value stands for.
* `WorkTree.Value.written` — the text that a value is written as.

## Main results

* `WorkTree.Value.texts_map` — a list of texts is accepted as it stands.
* `WorkTree.Value.written_text` — a text is written as it stands.
-/

namespace WorkTree.Value

/-- The texts that some values are, which stand behind `position` others. -/
def textsFrom (position : Nat) : List Value → Except Fault (List String)
  | [] => .ok []
  | .text s :: rest => (textsFrom (position + 1) rest).map (s :: ·)
  | v :: _ => .error (.memberNotText position v.kind)

/-- The texts that the members of a list are. -/
def texts (values : List Value) : Except Fault (List String) :=
  textsFrom 0 values

/-- The text that a value is, asked for an attribute of this name, which only texts have. -/
def textFor (name : String) : Value → Except Fault String
  | .text s => .ok s
  | v => .error (.attributeMissing v.kind name)

/-- The name that a value is, where something is asked for by its name. -/
def toName : Value → Except Fault String
  | .text s => .ok s
  | v => .error (.nameNotText v.kind)

/-- A text with a value behind it, which has to be a text too. -/
def behind (lead : String) : Value → Except Fault String
  | .text s => .ok (lead ++ s)
  | v => .error (.notAppendable (Value.text lead).kind v.kind)

/-- The path that a value stands for: a path, or a text that writes one. -/
def toPath : Value → Except Fault Path
  | .text s => .ok (Path.ofString s)
  | .path p => .ok p
  | v => .error (.notAPath v.kind)

mutual

/-- Whether all integers in a value can be written out. -/
def hasShortNumerals : Value → Bool
  | .int n => n.natAbs < Nat.pow 10 Numeral.maxLength
  | .list items => haveShortNumerals items
  | .record fields => fieldsHaveShortNumerals fields
  | _ => true

/-- Whether all integers in some values can be written out. -/
def haveShortNumerals : List Value → Bool
  | [] => true
  | v :: rest => hasShortNumerals v && haveShortNumerals rest

/-- Whether all integers in the fields of a record can be written out. -/
def fieldsHaveShortNumerals : List (String × Value) → Bool
  | [] => true
  | (_, v) :: rest => hasShortNumerals v && fieldsHaveShortNumerals rest

end

/-- The text that a value is written as, unless an integer in it has too many digits. -/
def written (v : Value) : Except Fault String :=
  if v.hasShortNumerals then .ok v.asText else .error .numeralTooLong

/-- A text is written as it stands. -/
@[simp]
theorem written_text (s : String) : (Value.text s).written = .ok s := by
  simp [written, hasShortNumerals, asText]

/-- Behind any number of others, texts are accepted as they stand. -/
theorem textsFrom_map (position : Nat) (ss : List String) :
    textsFrom position (ss.map Value.text) = .ok ss := by
  induction ss generalizing position with
  | nil => rfl
  | cons s rest ih => simp [textsFrom, ih, Except.map]

/-- A list of texts is accepted as it stands. -/
@[simp]
theorem texts_map (ss : List String) : texts (ss.map Value.text) = .ok ss :=
  textsFrom_map 0 ss

end WorkTree.Value
