set_option relaxedAutoImplicit false
set_option autoImplicit false

/-!
# Capitals

Names of log levels are written in ASCII capitals, and what a caller gives is put into capitals
before it is compared. Besides the small ASCII letters, ten other characters have capitals that
are ASCII letters throughout: the dotless i, the long s, the sharp s and seven ligatures. Every
other character keeps at least one character outside ASCII and so occurs in no such name; it may
stand for itself.

## Main definitions

* `WorkTree.Text.upcase` — a text in capitals, as far as these are ASCII letters.
-/

namespace WorkTree.Text

/-- The capitals of a character, when they are ASCII letters, and otherwise the character. -/
def upcaseChar (c : Char) : List Char :=
  if 'a' ≤ c ∧ c ≤ 'z' then [Char.ofNat (c.toNat - 0x20)]
  else if c = 'ı' then ['I']
  else if c = 'ſ' then ['S']
  else if c = 'ß' then ['S', 'S']
  else if c = 'ﬀ' then ['F', 'F']
  else if c = 'ﬁ' then ['F', 'I']
  else if c = 'ﬂ' then ['F', 'L']
  else if c = 'ﬃ' then ['F', 'F', 'I']
  else if c = 'ﬄ' then ['F', 'F', 'L']
  else if c = 'ﬅ' ∨ c = 'ﬆ' then ['S', 'T']
  else [c]

/-- The text in capitals. -/
def upcase (s : String) : String :=
  String.ofList (s.toList.flatMap upcaseChar)

end WorkTree.Text
