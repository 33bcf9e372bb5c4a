import WorkTree.Text.Printable

set_option relaxedAutoImplicit false
set_option autoImplicit false

/-!
# Quoted texts

A text is written between quotes so that its bounds and every character of it can be seen. The
quote is `'`, or `"` when the text holds `'` and no `"`. Inside, the backslash and the quote are
preceded by a backslash, a character that is not printable is written as an escape, and all others
stand for themselves.

## Main definitions

* `WorkTree.Text.hex` — a number in a fixed count of hexadecimal digits.
* `WorkTree.Text.escapeChar` — how a character is written between quotes.
* `WorkTree.Text.quoted` — a text between quotes.
-/

namespace WorkTree.Text

/-- The hexadecimal digit of a number below sixteen. -/
def hexDigit (n : Nat) : Char :=
  if n < 10 then Char.ofNat ('0'.toNat + n) else Char.ofNat ('a'.toNat + (n - 10))

/-- The last `width` hexadecimal digits of `n`. -/
def hex : Nat → Nat → List Char
  | 0, _ => []
  | width + 1, n => hex width (n / 16) ++ [hexDigit (n % 16)]

/-- How a character is written between quotes: three controls have a letter, all others that are
not printable are written by their code point, in two, four or eight digits. -/
def escapeChar (quote c : Char) : List Char :=
  if c = quote ∨ c = '\\' then ['\\', c]
  else if c = '\n' then ['\\', 'n']
  else if c = '\r' then ['\\', 'r']
  else if c = '\t' then ['\\', 't']
  else if isPrintable c then [c]
  else if c.toNat < 0x100 then '\\' :: 'x' :: hex 2 c.toNat
  else if c.toNat < 0x10000 then '\\' :: 'u' :: hex 4 c.toNat
  else '\\' :: 'U' :: hex 8 c.toNat

/-- The quote around a text: the double one when the text holds the single one only. -/
def quoteFor (s : List Char) : Char :=
  if '\'' ∈ s ∧ '"' ∉ s then '"' else '\''

/-- The text between quotes. -/
def quoted (s : String) : String :=
  let quote := quoteFor s.toList
  String.ofList (quote :: s.toList.flatMap (escapeChar quote) ++ [quote])

end WorkTree.Text
