import WorkTree.Number.Numeral
import WorkTree.Text.Digit
import WorkTree.Value

set_option relaxedAutoImplicit false
set_option autoImplicit false

/-!
# Lists as values on a command line

A value that is a list stands for one text, in brackets, of the pieces that commas part its members
into. A piece is what brackets or braces hold together, or else what stands up to the next comma
outside of quotation marks. Such a piece is put into quotation marks, unless it has them already, is
a number, or names one of three constants. Where a comma has no piece in front of it, an empty text
takes its place, and so does a list without pieces that ends in an empty member.

## Main definitions

* `WorkTree.CommandLine.isRealNumeral` — whether a text writes a number.
* `WorkTree.CommandLine.joined` — the text that a list stands for.
-/

namespace WorkTree.CommandLine

/-! ## Numbers -/

/-- Whether a text is made of decimal digits of any script, with single underscores between them. -/
def isDigitRun (s : List Char) : Bool :=
  !s.isEmpty && s.all (fun c => c = '_' || Text.isDecimalDigit c) && s.head? ≠ some '_' &&
    s.getLast? ≠ some '_' && !Numeral.hasUnderscorePair s

/-- The text without a sign in front. -/
def dropSign : List Char → List Char
  | c :: s => if c = '+' ∨ c = '-' then s else c :: s
  | [] => []

/-- Whether a text writes a number without an exponent: digits, with a point before, among or behind
them. -/
def isFixedNumeral (s : List Char) : Bool :=
  let whole := s.takeWhile (· ≠ '.')
  match s.drop whole.length with
  | [] => isDigitRun whole
  | _ :: fraction =>
    (isDigitRun whole || whole.isEmpty) && (isDigitRun fraction || fraction.isEmpty) &&
      !(whole.isEmpty && fraction.isEmpty)

/-- Whether a text writes a number: digits with a fraction and an exponent, or the name of a value
that has none. -/
def isRealNumeral (s : List Char) : Bool :=
  let s := dropSign s
  let mantissa := s.takeWhile fun c => c ≠ 'e' && c ≠ 'E'
  let exponentFits := match s.drop mantissa.length with
    | [] => true
    | _ :: exponent => isDigitRun (dropSign exponent)
  (isFixedNumeral mantissa && exponentFits) ||
    ["inf", "infinity", "nan"].contains (String.ofList (s.map Char.toLower))

/-! ## Pieces -/

/-- What is read of a list: its pieces, and whether the last thing read was one. -/
structure Pieces where
  texts : List String := []
  endsWithPiece : Bool := false

/-- The pieces with one more behind them. -/
def Pieces.push (pieces : Pieces) (text : String) : Pieces :=
  ⟨pieces.texts ++ [text], true⟩

/-- The pieces when a comma or the end comes. -/
def Pieces.separate (pieces : Pieces) : Pieces :=
  if pieces.endsWithPiece then { pieces with endsWithPiece := false }
  else { pieces with texts := pieces.texts ++ ["\"\""] }

/-- The number of characters up to the closing mark of a piece in brackets or braces, when `depth`
of them are open. Those between quotation marks do not count. -/
def lengthToClosing? (closing : Char) (depth : Int) (inQuotes : Bool) (previous : Char) :
    List Char → Option Nat
  | [] => none
  | c :: rest =>
    let further (depth : Int) (inQuotes : Bool) :=
      (lengthToClosing? closing depth inQuotes c rest).map (· + 1)
    if c = '"' ∧ previous ≠ '\\' then further depth !inQuotes
    else if inQuotes then further depth inQuotes
    else if c = '\x7b' ∨ c = '[' then further (depth + 1) inQuotes
    else if c = '\x7d' ∨ c = ']' then
      if c = closing ∧ depth = 1 then some 1 else further (depth - 1) inQuotes
    else further depth inQuotes

/-- The number of characters up to a comma outside of quotation marks, if these are all closed. -/
def lengthToComma? (inQuotes : Bool) (previous : Char) : List Char → Option Nat
  | [] => if inQuotes then none else some 0
  | c :: rest =>
    let inQuotes := if c = '"' ∧ previous ≠ '\\' then !inQuotes else inQuotes
    if c = ',' ∧ !inQuotes then some 0 else (lengthToComma? inQuotes c rest).map (· + 1)

/-- How a piece is written that no brackets hold together. -/
def pieceText (absentText : Option String) (piece : List Char) : String :=
  let text := String.ofList piece
  if isRealNumeral piece then text
  else if absentText = some text then "null"
  else if ["true", "false", "null"].contains text ∨ piece.head? = some '"' then text
  else "\"" ++ text ++ "\""

/-- Reads the pieces of a member. Each is shorter than the member, so that `fuel` need not exceed
the number of characters by more than one. -/
def readPieces (absentText : Option String) : Nat → List Char → Pieces → Except String Pieces
  | 0, _, pieces => .ok pieces
  | _, [], pieces => .ok pieces
  | fuel + 1, member, pieces =>
    match Text.trim member with
    | ',' :: rest => readPieces absentText fuel rest pieces.separate
    | s =>
      if s.head? = some '\x7b' ∨ s.head? = some '[' then
        let closing := if s.head? = some '[' then ']' else '\x7d'
        match lengthToClosing? closing 1 false ' ' (s.drop 1) with
        | none => .error ("Missing end delimiter \"" ++ closing.toString ++ "\"")
        | some size =>
          readPieces absentText fuel (s.drop (size + 1))
            (pieces.push (String.ofList (s.take (size + 1))))
      else
        match lengthToComma? false ' ' s with
        | none => .error "Mismatched quotes"
        | some size =>
          readPieces absentText fuel (s.drop size)
            (pieces.push (pieceText absentText (Text.trimEnd (s.take size))))

/-- A member without blanks around it and without the brackets that hold all of it. -/
def bareMember (s : String) : List Char :=
  let member := Text.trim s.toList
  if member.head? = some '[' ∧ member.getLast? = some ']' then
    Text.trim (member.drop 1).dropLast
  else member

/-- Reads the pieces of the members of a list up to the first one that is no text. -/
def readMembers (absentText : Option String) (pieces : Pieces) :
    List Value → Except String Pieces
  | .text s :: rest => do
    let member := bareMember s
    let pieces ← readPieces absentText (member.length + 1) member pieces
    let pieces := if pieces.endsWithPiece then pieces else pieces.separate
    readMembers absentText pieces rest
  | _ => .ok pieces

/-- The text that a list stands for, or why it stands for none. -/
def joined (absentText : Option String) (items : List Value) : Except String String := do
  let pieces ← readMembers absentText {} items
  return "[" ++ String.intercalate "," pieces.texts ++ "]"

end WorkTree.CommandLine
