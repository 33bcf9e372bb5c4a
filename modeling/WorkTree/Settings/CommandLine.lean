import WorkTree.Settings.CommandLine.Joined
import WorkTree.Settings.CommandLine.Word
import WorkTree.Settings.Option
import WorkTree.Text.Identifier

set_option relaxedAutoImplicit false
set_option autoImplicit false

/-!
# Settings on a command line

A caller may give words of a command line. The flag of a setting takes a value, which is attached to
it or follows as the next word, and the last value of a setting counts. Words that are neither flags
nor values are refused, unless the caller asks to pass them over.

## Main definitions

* `WorkTree.CommandLine` — how a command line is read.
* `WorkTree.CommandLine.Reading`, `WorkTree.CommandLine.Ending` — what reading leaves, and why it
  ends early.
* `WorkTree.CommandLine.readWords`, `WorkTree.CommandLine.read` — reads words.
* `WorkTree.CommandLine.ofGiven` — the values on the command line that a caller gives.
-/

namespace WorkTree

/-- How a command line is read: the marks and the arguments, what stands in front of the names of
settings, whether the case of letters in flags matters, whether unknown words are passed over, and
the text that stands for the absent value. -/
structure CommandLine where
  table : CommandLine.Table
  lead : String := ""
  caseMatters : Bool := false
  skipsUnknown : Bool := false
  absentText : Option String := some "null"

namespace CommandLine

/-! ## Reading words -/

/-- The values on a command line, and the words that have no place in it. -/
structure Reading where
  values : List (Setting × Value) := []
  leftOver : List Value := []
  deriving DecidableEq, Repr

/-- The reading with one more value in front. -/
def Reading.withValue (setting : Setting) (value : Value) (reading : Reading) : Reading :=
  { reading with values := (setting, value) :: reading.values }

/-- The reading with one more word left over in front. -/
def Reading.withLeftOver (word : Value) (reading : Reading) : Reading :=
  { reading with leftOver := word :: reading.leftOver }

/-- Why reading ends early: the command line is explained, or it is refused. -/
inductive Ending where
  | explained
  | refused (reason : String)
  deriving DecidableEq, Repr

/-- The refusal of a flag without a value. -/
def valueMissing (argument : Argument) : Ending :=
  .refused ("argument " ++ flagsText argument.flags ++ ": expected one argument")

/-- The refusal of a flag with a value that it has no use for. -/
def valueIgnored (argument : Argument) (attached : List Char) : Ending :=
  .refused ("argument " ++ flagsText argument.flags ++ ": ignored explicit argument " ++
    Text.quoted (String.ofList attached))

/-- How a flag for an explanation, as it is `written`, ends the reading when characters are attached
to it. Behind a single mark they are flags of their own, up to the first one that takes a value;
`valueFollows` tells whether the next word is one. Anything else is refused. -/
def explainedWith (table : Table) (valueFollows : Bool) (argument : Argument)
    (written : List Char) : List Char → Ending
  | [] => .explained
  | c :: rest =>
    let flag := written.take 1 ++ [c]
    if table.hasTwoMarks written then valueIgnored argument (c :: rest)
    else
      match table.find? flag, rest with
      | none, rest => valueIgnored argument (c :: rest)
      | some ⟨.setting setting, flags⟩, [] =>
        if valueFollows then .explained else valueMissing ⟨.setting setting, flags⟩
      | some ⟨.setting _, _⟩, _ => .explained
      | some other, rest => explainedWith table valueFollows other flag rest

/-- How a flag for an explanation ends the reading when `rest` follows. -/
def explainedBy (table : Table) (argument : Argument) (written : List Char) (rest : List Word) :
    Option (List Char) → Ending
  | none => .explained
  | some [] => valueIgnored argument []
  | some attached =>
    let valueFollows := match rest with
      | .plain _ :: _ => true
      | _ => false
    explainedWith table valueFollows argument written attached

/-- The value that is attached to a flag. Two hyphens are an empty list. -/
def attachedValue (attached : List Char) : Value :=
  if attached = flagsEnd.toList then .list [] else .text (String.ofList attached)

/-- Reads words one after the other. -/
def readWords (table : Table) : List Word → Except Ending Reading
  | [] => .ok {}
  | .endOfFlags :: rest => (readWords table rest).map (Reading.withLeftOver (.text flagsEnd))
  | .unknown word :: rest => (readWords table rest).map (Reading.withLeftOver (.text word))
  | .plain word :: rest => (readWords table rest).map (Reading.withLeftOver word)
  | .flag ⟨.explanation, flags⟩ written attached :: rest =>
    .error (explainedBy table ⟨.explanation, flags⟩ written rest attached)
  | .flag ⟨.setting setting, _⟩ _ (some attached) :: rest =>
    (readWords table rest).map (Reading.withValue setting (attachedValue attached))
  | .flag ⟨.setting setting, _⟩ _ none :: .plain value :: rest =>
    (readWords table rest).map (Reading.withValue setting value)
  | .flag argument _ _ :: _ => .error (valueMissing argument)

/-! ## Reading a command line -/

/-- The value that a word stands for. A list is joined to a text. -/
def meaning (line : CommandLine) (setting : Setting) (word : Value) : Except Fault Value :=
  let meant (s : String) : Value := if line.absentText = some s then .null else .text s
  match word with
  | .text s => .ok (meant s)
  | .list items =>
    match joined line.absentText items with
    | .ok s => .ok (meant s)
    | .error reason => .error (.commandLineNotJoined (line.lead ++ setting.name) reason)
  | v => .ok v

/-- The last value of a setting; the absent value takes back what was given before. -/
def lastValue? (reading : Reading) (setting : Setting) : Option Value :=
  (reading.values.reverse.lookup setting).bind Value.toOption

/-- The values on a command line whose words are told apart. -/
def valuesOf (line : CommandLine) (reading : Reading) : Except Fault (List (Setting × Value)) :=
  let words := Setting.all.filterMap fun setting =>
    (lastValue? reading setting).map fun word => (setting, word)
  words.mapM fun (setting, word) => do return (setting, ← line.meaning setting word)

/-- The values on a command line, or why it ends the reading. -/
def read (line : CommandLine) (words : List Value) :
    Except Fault (Except Ending (List (Setting × Value))) := do
  match readWords line.table (← line.table.classifyAll words) with
  | .error ending => return .error ending
  | .ok reading =>
    if line.skipsUnknown || reading.leftOver.isEmpty then return .ok (← line.valuesOf reading)
    let leftOver ← Value.texts reading.leftOver
    return .error (.refused ("unrecognized arguments: " ++ String.intercalate " " leftOver))

/-! ## What a caller gives -/

/-- The mark that flags begin with. It is a text, a character of which stands in front of the flags
for an explanation. -/
def markOf (v : Value) : Except Fault String :=
  match v with
  | .null => .ok ({} : Style).mark
  | .text s => if s = "" then .error .textTooShort else .ok s
  | .list [] => .error .listTooShort
  | .list items =>
    .error (.flagMalformed ((Value.list (items ++ items)).literal ++ Setting.projectPath.name)
      (Value.list items).literal)
  | v => .error (.notContaining v.kind)

/-- Refuses a mark that cannot stand twice in front of a name. -/
def requireDoubled (v : Value) : Except Fault Unit :=
  match v with
  | .record _ | .path _ => .error (.notAnOperand "*" v.kind)
  | _ => .ok ()

/-- What stands in front of the names of settings: names of a caller, joined by points, and a point
behind them. -/
def leadOf (v : Value) : Except Fault String :=
  match v with
  | .null | .text "" | .list [] | .record [] => .ok ""
  | .text s =>
    let chars := s.toList
    if chars.head? = some '.' ∨ chars.getLast? = some '.' ∨
        !Text.isIdentifier (chars.filter (· ≠ '.')) then
      .error (.commandLineLeadInvalid s)
    else .ok (s ++ ".")
  | v =>
    .error (if v.truthy then .attributeMissing v.kind "startswith" else .notMeasurable v.kind)

/-- The text that stands for the absent value: the one that the caller gives for the environment, or
the one for the command line, or else the usual one. -/
def absentTextOf (given : Given) : Option String :=
  if given.holds "_env_parse_none_str" then (given.option "_env_parse_none_str").text?
  else if given.holds "_cli_parse_none_str" then (given.option "_cli_parse_none_str").text?
  else if given.option "_cli_avoid_json" = .bool true then some "None"
  else some "null"

/-- How the command line of a caller is read. The options are looked at in a fixed order. -/
def ofOptions (given : Given) : Except Fault CommandLine := do
  let caseOption := given.option "_case_sensitive"
  let hyphenOption := given.option "_cli_kebab_case"
  requireDoubled (given.option "_cli_flag_prefix_char")
  let lead ← leadOf (given.option "_cli_prefix")
  let mark ← markOf (given.option "_cli_flag_prefix_char")
  let shortcuts ← shortcutsOf (given.option "_cli_shortcuts")
  let style : Style :=
    { mark, lead, hyphenated := !(hyphenOption.isNull || hyphenOption.agrees (.bool false)) }
  return {
    table := { marks := mark.toList, arguments := ← argumentsFor style shortcuts }
    lead
    caseMatters := !(caseOption.isNull || caseOption = .bool false)
    skipsUnknown := given.holds "_cli_ignore_unknown_args"
    absentText := absentTextOf given }

/-- The name by which a message calls the class of a value. -/
def className : Value → String
  | .path p => "pathlib." ++ (Value.path p).kind
  | v => v.kind

/-- A word in which the case of letters does not matter. It has to be a text; every value that
counts as no is an empty one. -/
def requireText : Value → Except Fault String
  | .text s => .ok s
  | v => if v.truthy then .error (.notSearchable v.kind) else .ok ""

/-- The words of a command line as they are looked up. -/
def preparedWords (line : CommandLine) (words : List Value) : Except Fault (List Value) := do
  if line.caseMatters then return words
  return (line.table.recasedAll (← words.mapM requireText)).map .text

/-- The words that a value stands for, if it asks for a command line at all: a list holds them; the
truth value yes asks for a command line without words. -/
def wordsOf? (v : Value) : Except Fault (Option (List Value)) :=
  match v with
  | .list items => .ok (some items)
  | .bool true => .ok (some [])
  | v =>
    if v.isNull || v.agrees (.bool false) then .ok none
    else .error (.commandLineNotList (className v))

/-- Whether a command line that is not understood ends the program. -/
def endsProgram (given : Given) : Bool :=
  (given.option "_cli_exit_on_error").isNull || given.holds "_cli_exit_on_error"

/-- The fault that an ending is. A command line that is explained ends the program, and so does one
that is refused, unless the caller asks for a fault. -/
def Ending.fault (given : Given) : Ending → Fault
  | .explained => .commandLineEnded 0
  | .refused reason =>
    if endsProgram given then .commandLineEnded 2 else .commandLineRejected reason

/-- The values on the command line that a caller gives. -/
def ofGiven (given : Given) : Except Fault (List (Setting × Value)) := do
  let words := given.option "_cli_parse_args"
  if words.isNull then return []
  let line ← ofOptions given
  match ← wordsOf? words with
  | none => return []
  | some words =>
    match ← line.read (← line.preparedWords words) with
    | .ok values => return values
    | .error ending => throw (ending.fault given)

end CommandLine

end WorkTree
