import WorkTree.Text.Blank
import WorkTree.Value

set_option relaxedAutoImplicit false
set_option autoImplicit false

/-!
# Branch names

Which texts may name a branch. A name is looked at together with the text that is put in front of
it, and all rules that are broken are reported, not only the first. A caller may give other values
for both; they are judged by their texts.

## Main definitions

* `WorkTree.BranchName.isForbidden` — characters that no name holds.
* `WorkTree.BranchName.breaksFormat` — whether a text breaks the format of names.
* `WorkTree.BranchName.Violation`, `WorkTree.BranchName.violations` — the rules, and those that a
  name breaks.
* `WorkTree.BranchName.Validation`, `WorkTree.BranchName.validate` — the report on a name.
* `WorkTree.BranchName.validateValue` — the report on a value in the place of a name.

## Main results

* `WorkTree.BranchName.validateValue_text` — for texts, the two reports are the same.
-/

namespace WorkTree.BranchName

/-- The longest name, in characters. -/
def maxLength : Nat :=
  100

/-! ## The format -/

/-- The characters that have a meaning of their own where git reads names. -/
def reserved : List Char :=
  ['~', '^', ':', '?', '*', '[', '\\']

/-- The characters that no name holds: blanks, ASCII controls and the reserved ones. -/
def isForbidden (c : Char) : Bool :=
  Text.isBlank c || c.toNat < 0x20 || c.toNat == 0x7F || reserved.contains c

/-- Whether the character `b` follows the character `a` somewhere. -/
def hasPair (a b : Char) : List Char → Bool
  | x :: y :: rest => (x == a && y == b) || hasPair a b (y :: rest)
  | _ => false

/-- The ending of the lock files that git keeps beside its branches. -/
def lockEnding : List Char :=
  ['.', 'l', 'o', 'c', 'k']

/-- Whether a component, a part between slashes, is one that git keeps for itself. -/
def isReservedComponent (component : List Char) : Bool :=
  component.head? == some '.' || lockEnding.isSuffixOf component

/-- Whether a text breaks the format of names. -/
def breaksFormat (s : List Char) : Bool :=
  s.any isForbidden || hasPair '.' '.' s || hasPair '@' '{' s || s == ['@'] ||
    s == ['H', 'E', 'A', 'D'] || s.head? == some '-' || s.getLast? == some '.' ||
    s.head? == some '/' || s.getLast? == some '/' || hasPair '/' '/' s ||
    (s.splitOn '/').any isReservedComponent

/-! ## Violations -/

/-- The rules that a name can break. -/
inductive Violation where
  | empty
  | tooLong
  | invalidCharacters
  deriving DecidableEq, Repr

/-- The wording of a violation. -/
def Violation.message : Violation → String
  | .empty => "Branch name cannot be empty"
  | .tooLong => "Branch name is too long (max " ++ toString maxLength ++ " characters)"
  | .invalidCharacters => "Branch name contains invalid characters"

/-- The rules that a text breaks; `blank` tells that there is no name in it. A text is not too long
and, unless it is empty, of the right format. -/
def violationsOf (blank : Bool) (full : List Char) : List Violation :=
  (if blank then [.empty] else []) ++ (if maxLength < full.length then [.tooLong] else []) ++
    (if !full.isEmpty && breaksFormat full then [.invalidCharacters] else [])

/-- The rules that a name breaks when `lead` is put in front of it. -/
def violations (lead name : String) : List Violation :=
  violationsOf (name = "") (lead.toList ++ name.toList)

/-! ## Reports -/

/-- The report on a name: the rules it breaks, and the name to use. -/
structure Validation (ν : Type) where
  errors : List Violation
  normalizedName : ν
  deriving DecidableEq, Repr

/-- A name is valid when it breaks no rule. -/
def Validation.valid {ν : Type} (v : Validation ν) : Bool :=
  v.errors.isEmpty

/-- The report with the name to use written in another way. -/
def Validation.map {ν ν' : Type} (f : ν → ν') (v : Validation ν) : Validation ν' :=
  ⟨v.errors, f v.normalizedName⟩

/-- The report on a name with a text in front of it. The name to use has that text in front when it
is valid with it, and is the name alone otherwise. -/
def validate (name : String) (lead : String := "") : Validation String :=
  let errors := violations lead name
  ⟨errors, if lead ≠ "" ∧ errors = [] then lead ++ name else name⟩

/-- The report on a value in the place of a name, with another one in front of it. A name that
counts as no is blank. A value that counts as no stands in front when the rules are checked, but is
left out of the name to use. -/
def validateValue (name : Value) (lead : Value := .text "") : Validation Value :=
  let errors := violationsOf (!name.truthy) (lead.asText.toList ++ name.asText.toList)
  ⟨errors, if lead.truthy ∧ errors = [] then .text (lead.asText ++ name.asText) else name⟩

/-- For texts this is the report on the two texts. -/
@[simp]
theorem validateValue_text (lead name : String) :
    validateValue (.text name) (.text lead) = (validate name lead).map .text := by
  by_cases hl : lead = "" <;> by_cases hn : name = "" <;>
    simp [validateValue, validate, violations, Validation.map, Value.truthy, Value.asText, hl, hn]
      <;> split <;> rfl

end WorkTree.BranchName
