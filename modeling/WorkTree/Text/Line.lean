set_option relaxedAutoImplicit false
set_option autoImplicit false

/-!
# Lines

A text is cut into lines at every line break, and a break at its very end opens no further line.
The breaks are the vertical controls, the carriage return, the three separators U+001C to U+001E,
the next-line control and the two Unicode separators; a carriage return together with the line
feed after it is one break.

## Main definitions

* `WorkTree.Text.isLineBreak` — the characters that end a line.
* `WorkTree.Text.lines` — the lines of a list of characters, without their breaks.
* `WorkTree.Text.foldNewlines` — every carriage return, with the line feed after it if there is
  one, written as a line feed.
-/

namespace WorkTree.Text

/-- The characters at which a line ends. -/
def isLineBreak (c : Char) : Bool :=
  let n := c.toNat
  (0x0A ≤ n && n ≤ 0x0D) || (0x1C ≤ n && n ≤ 0x1E) || n == 0x85 || n == 0x2028 || n == 0x2029

/-- Puts a character in front of the first of some lines, and makes a line of it when there is
none. -/
def consToHead (c : Char) : List (List Char) → List (List Char)
  | [] => [[c]]
  | line :: rest => (c :: line) :: rest

/-- The lines of a text, without their breaks. -/
def lines : List Char → List (List Char)
  | [] => []
  | '\r' :: '\n' :: rest => [] :: lines rest
  | c :: rest => if isLineBreak c then [] :: lines rest else consToHead c (lines rest)

/-- The text with one kind of line ending: a carriage return, alone or before a line feed, becomes
a line feed. -/
def foldNewlines : List Char → List Char
  | [] => []
  | '\r' :: '\n' :: rest => '\n' :: foldNewlines rest
  | c :: rest => (if c = '\r' then '\n' else c) :: foldNewlines rest

end WorkTree.Text
