import WorkTree.Text.Blank

set_option relaxedAutoImplicit false
set_option autoImplicit false

/-!
# Integers written as settings

An integer setting may be given as a text. A *plain* numeral is an optional hyphen and ASCII digits
without superfluous zeros. A text that is no plain numeral is tidied and looked at once more: white
space around it is dropped; a plus sign goes unless a hyphen follows, and a hyphen stays in front.
In what is left the zeros at the beginning are dropped, then a point with nothing but zeros after
it, and then single underscores between other characters.

Underscores among the zeros at the beginning go with the zeros, however many there are, and a hyphen
after them counts as the sign of what is left, unless there is one in front. Numerals have a
greatest number of digits, which only plain ones are told about.

## Main definitions

* `WorkTree.Numeral.Flaw` — why a text is no numeral.
* `WorkTree.Numeral.plain` — reads a plain numeral.
* `WorkTree.Numeral.tidy` — what is left of a text when it is tidied.
* `WorkTree.Numeral.integer` — the integer that a text writes.
-/

namespace WorkTree.Numeral

/-- Why a text is no numeral. -/
inductive Flaw where
  | malformed
  | tooLong
  deriving DecidableEq, Repr

/-! ## Plain numerals -/

/-- Numerals have at most so many digits, plain ones that are read and those that are written. -/
def maxLength : Nat :=
  4300

/-- The ASCII digits. -/
def isDigit (c : Char) : Bool :=
  '0' ≤ c && c ≤ '9'

/-- The value of some digits. -/
def valueOf (digits : List Char) : Nat :=
  digits.foldl (fun n c => n * 10 + (c.toNat - '0'.toNat)) 0

/-- Reads digits that do not begin with a superfluous zero and that leave nothing. A run of digits
that is too long is noticed before what follows it. -/
def plainDigits (s : List Char) : Except Flaw Nat :=
  let digits := s.takeWhile isDigit
  match digits with
  | [] => .error .malformed
  | '0' :: _ => if s.length = 1 then .ok 0 else .error .malformed
  | _ :: _ =>
    if maxLength < digits.length then .error .tooLong
    else if digits.length = s.length then .ok (valueOf digits)
    else .error .malformed

/-- Reads a plain numeral. -/
def plain : List Char → Except Flaw Int
  | '-' :: s => (plainDigits s).map fun n => -(n : Int)
  | s => (plainDigits s).map Int.ofNat

/-! ## Tidying -/

/-- The text without the white space at its two ends. -/
def trimWhiteSpace (s : List Char) : List Char :=
  ((s.dropWhile Text.isWhiteSpace).reverse.dropWhile Text.isWhiteSpace).reverse

/-- The text without a plus sign at its beginning, unless a hyphen follows the sign. -/
def dropPlus : List Char → List Char
  | '+' :: '-' :: s => '+' :: '-' :: s
  | '+' :: s => s
  | s => s

/-- What is left after `last`, a zero or an underscore among the zeros at the beginning. Before a
point, and at the end, `last` stays. -/
def dropZerosAfter (last : Char) : List Char → List Char
  | [] => [last]
  | c :: s =>
    if c = '0' ∨ c = '_' then dropZerosAfter c s
    else if c = '.' then last :: c :: s
    else c :: s

/-- The text without the zeros at its beginning and the underscores among them. -/
def dropZeros : List Char → List Char
  | '0' :: s => dropZerosAfter '0' s
  | s => s

/-- The text without its first point, if zeros and nothing else follow it. -/
def dropVoidFraction (s : List Char) : List Char :=
  let whole := s.takeWhile (· ≠ '.')
  let fraction := s.drop (whole.length + 1)
  if !fraction.isEmpty && fraction.all (· == '0') then whole else s

/-- Whether two underscores stand side by side. -/
def hasUnderscorePair : List Char → Bool
  | '_' :: '_' :: _ => true
  | _ :: s => hasUnderscorePair s
  | [] => false

/-- The text without its underscores, if each of them stands alone between other characters. -/
def dropUnderscores (s : List Char) : List Char :=
  if s.head? = some '_' ∨ s.getLast? = some '_' ∨ hasUnderscorePair s then s
  else s.filter (· ≠ '_')

/-- What is left of a text behind its sign when everything is dropped that adds nothing. -/
def tidyDigits (s : List Char) : List Char :=
  dropUnderscores (dropVoidFraction (dropZeros s))

/-- What is left of a text when everything is dropped that adds nothing to a numeral. -/
def tidy (s : List Char) : List Char :=
  match trimWhiteSpace s with
  | '-' :: s => '-' :: tidyDigits s
  | s => tidyDigits (dropPlus s)

/-! ## Numerals -/

/-- The integer that a text writes, as it stands or after it has been tidied. -/
def integer (s : String) : Except Flaw Int :=
  match plain s.toList with
  | .ok n => .ok n
  | .error .tooLong => .error .tooLong
  | .error .malformed => (plain (tidy s.toList)).mapError fun _ => .malformed

end WorkTree.Numeral
