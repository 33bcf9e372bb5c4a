set_option relaxedAutoImplicit false
set_option autoImplicit false

/-!
# Blank characters and trimming

What a command prints is trimmed before it is looked at. A *blank* is a character of the Unicode
class White_Space or one of the four ASCII separators U+001C to U+001F; trimming removes the
blanks at an end of a text and nothing else.

## Main definitions

* `WorkTree.Text.isBlank` — the class of blanks.
* `WorkTree.Text.trimStart`, `WorkTree.Text.trimEnd`, `WorkTree.Text.trim` — a list of characters
  without the blanks at its beginning, at its end, at both.
* `WorkTree.Text.stripEnd`, `WorkTree.Text.strip` — the same for texts.
* `WorkTree.Text.firstWord?` — the first maximal run of characters that are not blank.
-/

namespace WorkTree.Text

/-- The characters of the class White_Space. -/
def isWhiteSpace (c : Char) : Bool :=
  let n := c.toNat
  (0x09 ≤ n && n ≤ 0x0D) || n == 0x20 || n == 0x85 || n == 0xA0 || n == 0x1680 ||
    (0x2000 ≤ n && n ≤ 0x200A) || n == 0x2028 || n == 0x2029 || n == 0x202F || n == 0x205F ||
    n == 0x3000

/-- The blanks: white space and the four information separators. -/
def isBlank (c : Char) : Bool :=
  isWhiteSpace c || (0x1C ≤ c.toNat && c.toNat ≤ 0x1F)

/-! ## Trimming -/

/-- The characters of `s` from the first one that is not blank. -/
def trimStart (s : List Char) : List Char :=
  s.dropWhile isBlank

/-- The characters of `s` up to the last one that is not blank. -/
def trimEnd (s : List Char) : List Char :=
  (s.reverse.dropWhile isBlank).reverse

/-- The characters of `s` between the first and the last one that is not blank. -/
def trim (s : List Char) : List Char :=
  trimEnd (trimStart s)

/-- The text without the blanks at its end. -/
def stripEnd (s : String) : String :=
  String.ofList (trimEnd s.toList)

/-- The text without the blanks at its two ends. -/
def strip (s : String) : String :=
  String.ofList (trim s.toList)

/-! ## Words -/

/-- The first word of a line: its first maximal run of characters that are not blank. A line of
blanks has none. -/
def firstWord? (s : List Char) : Option (List Char) :=
  match trimStart s with
  | [] => none
  | c :: rest => some ((c :: rest).takeWhile fun d => !isBlank d)

end WorkTree.Text
