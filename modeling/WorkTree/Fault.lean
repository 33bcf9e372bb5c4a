import WorkTree.Number.Numeral
import WorkTree.Value

set_option relaxedAutoImplicit false
set_option autoImplicit false

/-!
# Faults

A fault is a condition that no operation answers for: it ends the operation in which it arises,
and what has been done up to that point stays done. The failures that operations do answer with
are in `WorkTree.Failure`.

Many faults come from values of a type that the place where they are used has no room for; such a
fault holds the name of the type.

## Main definitions

* `WorkTree.Fault` — the causes of faults.
* `WorkTree.Fault.sort`, `WorkTree.Fault.message` — the sort and the wording of each.
-/

namespace WorkTree

/-- A condition that ends an operation without an answer. -/
inductive Fault where
  /-- A text that goes to the operating system holds the character U+0000. -/
  | embeddedNul
  /-- A path has a name, or a length, beyond what the file system accepts. -/
  | nameTooLong (path : Path)
  /-- The home directory that a path asks for is not known. -/
  | homeUnknown
  /-- A time limit in seconds lies beyond the largest floating-point number. -/
  | timeLimitTooLarge
  /-- A time limit is zero or negative. -/
  | timeLimitNotPositive (limit : Value)
  /-- A value that is compared with a number is of a type without an order. -/
  | notComparable (kind : String)
  /-- The name of an environment variable holds an equals sign. -/
  | variableNameIllegal
  /-- The name of an environment variable is empty. -/
  | variableNameEmpty
  /-- The value of an environment variable is not a text. -/
  | variableNotText (kind : String)
  /-- What should be a name and a value, at this position among others, has no members. -/
  | entryNotAPair (position : Nat)
  /-- What should be a name and a value, at this position among others, has not two members. -/
  | entryMissized (position size : Nat)
  /-- A value that is to be a path is neither a text nor a path. -/
  | notAPath (kind : String)
  /-- A value whose members are asked for has none. -/
  | notIterable (kind : String)
  /-- A value whose members are to be joined to a text has none. -/
  | notJoinable
  /-- A value that is asked for its length has none. -/
  | notMeasurable (kind : String)
  /-- A value that is looked up in a set or a table can be changed later and so is refused. -/
  | notHashable (kind : String)
  /-- A table has no entry under this key. -/
  | keyUnknown (key : Value)
  /-- A value whose first member is asked for has no members. -/
  | notSubscriptable (kind : String)
  /-- A value in which something is looked for has no members. -/
  | notContaining (kind : String)
  /-- What is looked for in a text is no text. -/
  | notPartOfText (kind : String)
  /-- The first character of an empty text is asked for. -/
  | textTooShort
  /-- The first member of an empty list is asked for. -/
  | listTooShort
  /-- A value that is to be called is no operation. -/
  | notCallable (kind : String)
  /-- A value that is to be two values has no members. -/
  | notAPair (kind : String)
  /-- A value that is to be two values has too few members. -/
  | pairTooShort (size : Nat)
  /-- A value that is to be two values has too many members. -/
  | pairTooLong
  /-- A value is put behind a value that only values of its own type can follow. -/
  | notAppendable (kind added : String)
  /-- A number is wanted on the left of an operator. -/
  | notAnOperand (operator kind : String)
  /-- An infinity has no whole part. -/
  | infinityNotWhole
  /-- What is no number has no whole part. -/
  | notANumberNotWhole
  /-- A number is wanted to be written without its fraction. -/
  | notReal (kind : String)
  /-- An integer has more digits than are written out. -/
  | numeralTooLong
  /-- A member of the list that is joined to a text is not a text. -/
  | memberNotText (position : Nat) (kind : String)
  /-- A text is wanted to be searched. -/
  | notSearchable (kind : String)
  /-- What is asked for by name is not named by a text. -/
  | nameNotText (kind : String)
  /-- A value of this type has no attribute of this name. -/
  | attributeMissing (owner name : String)
  /-- An attribute is computed and cannot be set. -/
  | attributeComputed (name : String)
  /-- An attribute is kept apart from the others and cannot be set. -/
  | attributeUnwritable (name : String)
  /-- All attributes together are not given as a record. -/
  | attributesNotRecord (kind : String)
  /-- What says which attributes there are is not given as a class. -/
  | attributesNotClass (kind : String)
  /-- An operation knows no argument of this name. -/
  | argumentUnexpected (operation name : String)
  /-- An operation is not given all the arguments that it needs. -/
  | argumentsMissing (operation : String) (names : List String)
  /-- An operation is given more arguments than it takes. -/
  | argumentsTooMany (operation : String) (taken given : Nat)
  /-- An operation is given an argument in two ways. -/
  | argumentTwice (operation name : String)
  /-- A commit message is not a text. -/
  | messageNotText (kind : String)
  /-- The message of a failure, which has to stand alone, is not a text. -/
  | descriptionNotText (kind : String)
  /-- There is no cache slot of this name. -/
  | slotUnknown (name : Value)
  /-- A log level is of a type that stands for no number. -/
  | levelNotNumeric (kind : String)
  /-- A log level is a text that names no level. -/
  | levelUnknown (name : String)
  /-- A log level is neither a number nor a text but the table written here. -/
  | levelUnusable (literal : String)
  /-- The name of a log channel is not a text. -/
  | channelNotText
  /-- What the names of environment variables begin with cannot be followed by this name. -/
  | variablesUnreadable (field : String)
  /-- The place of the secrets is a device. -/
  | secretsInDevice
  /-- A count of directories to look in is no integer, or larger than any count. -/
  | notACount
  /-- The arguments of a command line are not given as a list but by a value of this class. -/
  | commandLineNotList (className : String)
  /-- The arguments of a command line are not understood. -/
  | commandLineRejected (reason : String)
  /-- A command line ends the program, with this code. -/
  | commandLineEnded (code : Nat)
  /-- What flags begin with in front of the names of settings is no name. -/
  | commandLineLeadInvalid (lead : String)
  /-- A flag does not begin with one of the characters that flags begin with. -/
  | flagMalformed (flag marks : String)
  /-- The value of a setting on a command line is a list whose members cannot be joined. -/
  | commandLineNotJoined (setting reason : String)
  /-- Some flags of an argument are those of another one. -/
  | flagsTaken (argument : String) (flags : List String)
  /-- The surroundings end an operation in a way of their own. -/
  | outside (sort wording : String)
  deriving DecidableEq, Repr

namespace Fault

/-- The name of the sort of a fault, by which callers tell faults apart. -/
def sort : Fault → String
  | .embeddedNul | .timeLimitNotPositive _ | .variableNameIllegal | .slotUnknown _
  | .levelUnknown _ | .pairTooShort _ | .pairTooLong | .entryMissized _ _ | .notANumberNotWhole
  | .notACount | .flagMalformed _ _ | .numeralTooLong => "ValueError"
  | .nameTooLong _ | .variableNameEmpty => "OSError"
  | .timeLimitTooLarge | .infinityNotWhole => "OverflowError"
  | .homeUnknown => "RuntimeError"
  | .keyUnknown _ => "KeyError"
  | .textTooShort | .listTooShort => "IndexError"
  | .attributeMissing _ _ | .attributeUnwritable _ | .attributeComputed _ => "AttributeError"
  | .variablesUnreadable _ | .secretsInDevice | .commandLineNotList _ | .commandLineRejected _
  | .commandLineLeadInvalid _ | .commandLineNotJoined _ _ => "SettingsError"
  | .commandLineEnded _ => "SystemExit"
  | .flagsTaken _ _ => "ArgumentError"
  | .outside sort _ => sort
  | .notComparable _ | .variableNotText _ | .notAPath _ | .notIterable _ | .notJoinable
  | .notMeasurable _ | .notHashable _ | .notCallable _ | .notAPair _ | .notAppendable _ _
  | .notAnOperand _ _ | .notReal _ | .notSubscriptable _ | .notContaining _ | .notPartOfText _
  | .entryNotAPair _ | .memberNotText _ _ | .notSearchable _ | .nameNotText _
  | .attributesNotRecord _ | .attributesNotClass _ | .argumentUnexpected _ _ | .argumentsMissing _ _
  | .argumentsTooMany _ _ _ | .argumentTwice _ _ | .messageNotText _ | .descriptionNotText _
  | .levelNotNumeric _ | .levelUnusable _ | .channelNotText => "TypeError"

/-- Names in a row, each in quotation marks. -/
def enumeration : List String → String
  | [] => ""
  | [a] => "'" ++ a ++ "'"
  | [a, b] => "'" ++ a ++ "' and '" ++ b ++ "'"
  | names =>
    let quoted := names.map fun name => "'" ++ name ++ "'"
    String.intercalate ", " quoted.dropLast ++ ", and " ++ (quoted.getLast?.getD "")

/-- A number with a word, which has an `s` at its end unless the number is one. -/
def counted (n : Nat) (word : String) : String :=
  toString n ++ " " ++ word ++ if n = 1 then "" else "s"

/-- The wording of a fault. -/
def message : Fault → String
  | .embeddedNul => "embedded null byte"
  | .nameTooLong path => "[Errno 36] File name too long: " ++ Text.quoted path.text
  | .homeUnknown => "Could not determine home directory."
  | .timeLimitTooLarge => "integer division result too large for a float"
  | .timeLimitNotPositive limit => "timeout_ms must be positive, got " ++ limit.asText
  | .notComparable kind =>
    "'<=' not supported between instances of '" ++ kind ++ "' and 'int'"
  | .variableNameIllegal => "illegal environment variable name"
  | .variableNameEmpty => "[Errno 22] Invalid argument"
  | .variableNotText kind => "str expected, not " ++ kind
  | .entryNotAPair position =>
    "cannot convert dictionary update sequence element #" ++ toString position ++ " to a sequence"
  | .entryMissized position size =>
    "dictionary update sequence element #" ++ toString position ++ " has length " ++
      toString size ++ "; 2 is required"
  | .notAPath kind => "expected str, bytes or os.PathLike object, not " ++ kind
  | .notIterable kind => "'" ++ kind ++ "' object is not iterable"
  | .notJoinable => "can only join an iterable"
  | .notMeasurable kind => "object of type '" ++ kind ++ "' has no len()"
  | .notHashable kind => "unhashable type: '" ++ kind ++ "'"
  | .keyUnknown key => key.literal
  | .notSubscriptable kind => "'" ++ kind ++ "' object is not subscriptable"
  | .notContaining kind => "argument of type '" ++ kind ++ "' is not iterable"
  | .notPartOfText kind => "'in <string>' requires string as left operand, not " ++ kind
  | .textTooShort => "string index out of range"
  | .listTooShort => "list index out of range"
  | .notCallable kind => "'" ++ kind ++ "' object is not callable"
  | .notAPair kind => "cannot unpack non-iterable " ++ kind ++ " object"
  | .pairTooShort size => "not enough values to unpack (expected 2, got " ++ toString size ++ ")"
  | .pairTooLong => "too many values to unpack (expected 2)"
  | .notAppendable kind added =>
    "can only concatenate " ++ kind ++ " (not \"" ++ added ++ "\") to " ++ kind
  | .notAnOperand operator kind =>
    "unsupported operand type(s) for " ++ operator ++ ": '" ++ kind ++ "' and 'int'"
  | .infinityNotWhole => "cannot convert float infinity to integer"
  | .notANumberNotWhole => "cannot convert float NaN to integer"
  | .notReal kind => "%d format: a real number is required, not " ++ kind
  | .numeralTooLong =>
    "Exceeds the limit (" ++ toString Numeral.maxLength ++
      " digits) for integer string conversion; use sys.set_int_max_str_digits() to increase " ++
      "the limit"
  | .memberNotText position kind =>
    "sequence item " ++ toString position ++ ": expected str instance, " ++ kind ++ " found"
  | .notSearchable kind => "expected string or bytes-like object, got '" ++ kind ++ "'"
  | .nameNotText kind => "attribute name must be string, not '" ++ kind ++ "'"
  | .attributeMissing owner name => "'" ++ owner ++ "' object has no attribute '" ++ name ++ "'"
  | .attributeComputed name => "property '" ++ name ++ "' of 'ManagerConfig' object has no setter"
  | .attributeUnwritable name =>
    "attribute '" ++ name ++ "' of 'BaseSettings' objects is not writable"
  | .attributesNotRecord kind => "__dict__ must be set to a dictionary, not a '" ++ kind ++ "'"
  | .attributesNotClass kind =>
    "__class__ must be set to a class, not '" ++ kind ++ "' object"
  | .argumentUnexpected operation name =>
    operation ++ "() got an unexpected keyword argument '" ++ name ++ "'"
  | .argumentsMissing operation names =>
    operation ++ "() missing " ++ counted names.length "required positional argument" ++ ": " ++
      enumeration names
  | .argumentsTooMany operation taken given =>
    operation ++ "() takes " ++ counted taken "positional argument" ++ " but " ++
      toString given ++ (if given = 1 then " was given" else " were given")
  | .argumentTwice operation name =>
    operation ++ "() got multiple values for argument '" ++ name ++ "'"
  | .messageNotText kind => "commit message must be a string, got " ++ kind
  | .descriptionNotText kind => "__str__ returned non-string (type " ++ kind ++ ")"
  | .slotUnknown name => name.literal ++ " is not a valid CacheKey"
  | .levelNotNumeric kind =>
    "int() argument must be a string, a bytes-like object or a real number, not '" ++ kind ++ "'"
  | .levelUnknown name => "Unknown level: " ++ Text.quoted name
  | .levelUnusable literal => "Level not an integer or a valid string: " ++ literal
  | .channelNotText => "A logger name must be a string"
  | .variablesUnreadable field =>
    "error getting value for field \"" ++ field ++ "\" from source \"EnvSettingsSource\""
  | .secretsInDevice => "secrets_dir must reference a directory, not a char device"
  | .notACount => "Stop argument for islice() must be None or an integer: 0 <= x <= sys.maxsize."
  | .commandLineNotList className =>
    "cli_parse_args must be a list or tuple of strings, received <class '" ++ className ++ "'>"
  | .commandLineRejected reason => "error parsing CLI: " ++ reason
  | .commandLineNotJoined setting reason =>
    "Parsing error encountered for " ++ setting ++ ": " ++ reason
  | .commandLineEnded code => toString code
  | .commandLineLeadInvalid lead => "CLI settings source prefix is invalid: " ++ lead
  | .flagMalformed flag marks =>
    "invalid option string " ++ Text.quoted flag ++ ": must start with a character " ++ marks
  | .flagsTaken argument flags =>
    "argument " ++ argument ++ ": conflicting option string" ++
      (if flags.length = 1 then "" else "s") ++ ": " ++ String.intercalate ", " flags
  | .outside _ wording => wording

end Fault

end WorkTree
