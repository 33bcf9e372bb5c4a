import WorkTree.Settings.CommandLine.Argument
import WorkTree.Text.Blank
import WorkTree.Text.Digit

set_option relaxedAutoImplicit false
set_option autoImplicit false

/-!
# The words of a command line

A word that is a flag stands for its argument, possibly with a value behind an equals sign; the
value of a flag of two characters may follow at once. Other words that begin with a mark look like
flags, unless they are a mark alone, a negative number, or hold a space. The word of two hyphens
says that no flags follow.

## Main definitions

* `WorkTree.CommandLine.Word` — what a word is.
* `WorkTree.CommandLine.Table` — the marks and the arguments that words are looked up in.
* `WorkTree.CommandLine.Table.classify`, `WorkTree.CommandLine.Table.classifyAll` — what a word is,
  and what all of them are.
* `WorkTree.CommandLine.Table.recased`, `WorkTree.CommandLine.Table.recasedAll` — a word, and words,
  with flags in small letters.
-/

namespace WorkTree.CommandLine

/-- What a word on a command line is: the flag of an argument, as it is written, with what is
attached to it; the end of the flags; something that looks like a flag but is none; or any other
word. -/
inductive Word where
  | flag (argument : Argument) (written : List Char) (attached : Option (List Char))
  | endOfFlags
  | unknown (word : String)
  | plain (word : Value)
  deriving DecidableEq, Repr

/-- The word that ends the flags. -/
def flagsEnd : String :=
  "--"

/-- Whether a text is a negative number in decimal digits of any script, possibly with a fraction; a
line feed may follow. -/
def isNegativeNumber (s : List Char) : Bool :=
  match s with
  | '-' :: rest =>
    let body := if rest.getLast? = some '\n' then rest.dropLast else rest
    match body.dropWhile Text.isDecimalDigit with
    | [] => !body.isEmpty
    | '.' :: fraction => !fraction.isEmpty && fraction.all Text.isDecimalDigit
    | _ => false
  | _ => false

/-- The two parts of a text before and behind its first equals sign, if it has one. -/
def splitAtEquals? (s : List Char) : Option (List Char × List Char) :=
  match s.dropWhile (· ≠ '=') with
  | [] => none
  | _ :: value => some (s.takeWhile (· ≠ '='), value)

/-- Whether some characters stand side by side in others. -/
def isPartOf (part : List Char) : List Char → Bool
  | [] => part.isEmpty
  | c :: whole => part.isPrefixOf (c :: whole) || isPartOf part whole

/-! ## Looking words up -/

/-- The characters that flags begin with, and the arguments. -/
structure Table where
  marks : List Char
  arguments : List Argument

namespace Table

/-- The argument of a flag. -/
def find? (table : Table) (flag : List Char) : Option Argument :=
  table.arguments.find? fun argument => argument.flags.contains (String.ofList flag)

/-- All flags. -/
def flags (table : Table) : List String :=
  table.arguments.flatMap Argument.flags

/-- Whether the second character of a flag is a mark too. -/
def hasTwoMarks (table : Table) (flag : List Char) : Bool :=
  (flag.drop 1).head?.any table.marks.contains

/-- The flag of an argument with something attached: a value behind an equals sign, or anything that
follows a flag of two characters with a single mark. -/
def attached? (table : Table) (word : List Char) : Option Word :=
  let atEquals := do
    let (flag, value) ← splitAtEquals? word
    return Word.flag (← table.find? flag) flag (some value)
  let atOnce := do
    if table.hasTwoMarks word then none
    return Word.flag (← table.find? (word.take 2)) (word.take 2) (some (word.drop 2))
  atEquals.or atOnce

/-- Whether a word begins with a mark but is a negative number, where no flag looks like one, or
holds a space. -/
def isHarmless (table : Table) (word : List Char) : Bool :=
  (isNegativeNumber word && !table.flags.any fun flag => isNegativeNumber flag.toList) ||
    word.contains ' '

/-- What a text is as a word. -/
def classifyText (table : Table) (s : String) : Word :=
  let word := s.toList
  if !word.head?.any table.marks.contains then .plain (.text s)
  else
    match table.find? word with
    | some argument => .flag argument word none
    | none =>
      if word.length = 1 then .plain (.text s)
      else
        match table.attached? word with
        | some flag => flag
        | none => if table.isHarmless word then .plain (.text s) else .unknown s

/-- What a value is as a word. Every value that counts as no is a plain word; other values that are
no texts have to have a first member that can be looked for among the marks. -/
def classify (table : Table) (v : Value) : Except Fault Word :=
  if !v.truthy then .ok (.plain v)
  else
    match v with
    | .text s => .ok (table.classifyText s)
    | .list (.text s :: rest) =>
      if isPartOf s.toList table.marks then
        .error (.notHashable (Value.list (.text s :: rest)).kind)
      else .ok (.plain v)
    | .list (first :: _) => .error (.notPartOfText first.kind)
    | .record _ => .error (.keyUnknown (.int 0))
    | v => .error (.notSubscriptable v.kind)

/-- What the words of a command line are. Behind the end of the flags all words are plain. -/
def classifyAll (table : Table) : List Value → Except Fault (List Word)
  | [] => .ok []
  | v :: rest =>
    if v = .text flagsEnd then .ok (.endOfFlags :: rest.map .plain)
    else do
      let word ← table.classify v
      return word :: (← table.classifyAll rest)

/-! ## Small letters -/

/-- What looks like a flag at the beginning of a word: the marks, the last of them possibly twice,
and the characters behind them up to a blank or an equals sign, of which there is at least one. -/
def flagLike? (table : Table) (word : List Char) : Option (List Char) :=
  let isName (c : Char) : Bool := !Text.isBlank c && c ≠ '='
  let repeated := table.marks.getLast?.any fun mark =>
    !isName mark && (word.drop table.marks.length).head? = some mark
  let lead := word.take (table.marks.length + repeated.toNat)
  let name := (word.drop lead.length).takeWhile isName
  if table.marks.isPrefixOf word && !name.isEmpty then some (lead ++ name) else none

/-- A flag in small letters, if there is one of these letters, or else one of two characters in
small letters, with the others behind it as they are. -/
def recasedFlag (table : Table) (flag : List Char) : List Char :=
  let small (s : List Char) : List Char := (Text.downcase (String.ofList s)).toList
  let short := small (flag.take 2)
  if (table.find? (small flag)).isSome then small flag
  else if !table.hasTwoMarks flag && (table.find? short).isSome then short ++ flag.drop 2
  else flag

/-- A word with its flag in small letters, if there is such a flag. Any word that looks like a flag
then ends at a line feed, unless it is a negative number. -/
def recased (table : Table) (word : List Char) : List Char :=
  if isNegativeNumber word then word
  else
    match table.flagLike? word with
    | none => word
    | some flag => table.recasedFlag flag ++ (word.drop flag.length).takeWhile (· ≠ '\n')

/-- The words of a command line with flags in small letters. Behind the end of the flags all words
stay as they are. -/
def recasedAll (table : Table) : List String → List String
  | [] => []
  | s :: rest =>
    if s = flagsEnd then s :: rest
    else String.ofList (table.recased s.toList) :: table.recasedAll rest

end Table

end WorkTree.CommandLine
