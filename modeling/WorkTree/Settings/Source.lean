import WorkTree.Settings.CommandLine
import WorkTree.Settings.Places

set_option relaxedAutoImplicit false
set_option autoImplicit false

/-!
# Where settings come from

A setting is taken from a command line, if the caller gives one, or else from what the caller gives
for it, or else from the environment. Options of the caller say how the variables of the environment
are called, and what their values mean.

## Main definitions

* `WorkTree.Lookup`, `WorkTree.Lookup.ofGiven` — how settings are looked for.
* `WorkTree.Lookup.inherited?` — the value of a setting in the environment.
* `WorkTree.Lookup.value?` — the value of a setting, wherever it comes from.
* `WorkTree.Sources.ofValue` — whether settings are looked for at all.
-/

namespace WorkTree

/-- How settings are looked for: what the names of environment variables begin with, whether the
case of letters in them matters, whether empty variables are passed over, the text of a variable
that stands for the absent value, and the values on a command line. -/
structure Lookup where
  lead : String := Setting.lead
  caseMatters : Bool := false
  skipsEmpty : Bool := false
  absentText : Option String := none
  commandLine : List (Setting × Value) := []
  deriving DecidableEq, Repr

namespace Lookup

/-! ## Options -/

/-- Whether the names of environment variables begin with the lead. A caller may want it for other
names only. -/
def usesLead (given : Given) : Bool :=
  match given.option "_env_prefix_target" with
  | .null => true
  | .text s => s = "variable" || s = "all"
  | _ => false

/-- The count of parts that a caller wants a name to be split into has to be a number, since one is
taken away from it. -/
def requireCount (v : Value) : Except Fault Unit :=
  match v with
  | .null | .bool _ | .int _ | .real _ => .ok ()
  | v => if v.truthy then .error (.notAnOperand "-" v.kind) else .ok ()

/-- The lead that a value stands for, if a name can follow it; a lead has to have a length. -/
def leadOf? : Value → Except Fault (Option String)
  | .null => .ok (some ({} : Lookup).lead)
  | .text s => .ok (some s)
  | .list _ | .record _ => .ok none
  | v => .error (.notMeasurable v.kind)

/-- What the names of environment variables begin with. A lead that no name can follow is refused
when the first setting is looked for; one that is not used has to have small letters all the same,
unless case matters. -/
def leadFor (given : Given) (lead? : Option String) : Except Fault String :=
  match lead? with
  | some lead => .ok (if usesLead given then lead else "")
  | none =>
    if usesLead given then .error (.variablesUnreadable Setting.projectPath.name)
    else if given.holds "_case_sensitive" then .ok ""
    else .error (.attributeMissing (given.option "_env_prefix").kind "lower")

/-- How settings are looked for when a caller gives some options, which are looked at in a fixed
order. -/
def ofGiven (host : Host) (given : Given) : Except Fault Lookup := do
  requireCount (given.option "_env_nested_max_split")
  let lead? ← leadOf? (given.option "_env_prefix")
  Places.lookForFiles host (given.option "_env_file") (given.option "_env_file_depth")
  let commandLine ← CommandLine.ofGiven given
  let lead ← leadFor given lead?
  Places.lookForSecrets host (given.option "_secrets_dir")
  return {
    lead
    caseMatters := given.holds "_case_sensitive"
    skipsEmpty := given.holds "_env_ignore_empty"
    absentText := (given.option "_env_parse_none_str").text?
    commandLine }

/-! ## Values -/

/-- Whether two names of variables are the same as far as case matters. -/
def agree (lookup : Lookup) (a b : String) : Bool :=
  if lookup.caseMatters then a = b else Text.downcase a = Text.downcase b

/-- The value of a setting in the environment: the last variable that has its name behind the
lead. -/
def inherited? (lookup : Lookup) (env : Environment) (setting : Setting) : Option Value :=
  let counts (entry : String × String) : Bool :=
    lookup.agree entry.1 (lookup.lead ++ setting.name) && !(lookup.skipsEmpty && entry.2 == "")
  (env.entries.reverse.find? counts).map fun entry =>
    if lookup.absentText = some entry.2 then .null else .text entry.2

/-- The value of a setting: from the command line, from the caller, or else from the environment. -/
def value? (lookup : Lookup) (env : Environment) (given : Given) (setting : Setting) :
    Option Value :=
  (lookup.commandLine.lookup setting).or ((given.setting? setting).or
    (lookup.inherited? env setting))

end Lookup

/-! ## Other sources -/

/-- Where settings are looked for: in the usual places, or nowhere, so that all have their
defaults. -/
inductive Sources where
  | usual
  | nowhere
  deriving DecidableEq, Repr

/-- The sources that a caller wants instead of the usual ones: a value with two members, the first
of which is empty. Its members would have to be operations, and no value is one. -/
def Sources.ofValue (v : Value) : Except Fault Sources :=
  match v.toOption, v.members? with
  | none, _ => .ok .usual
  | some v, none => .error (.notAPair v.kind)
  | some _, some [sources, _] =>
    if sources.truthy then
      match sources.members? with
      | some (source :: _) => .error (.notCallable source.kind)
      | _ => .error (.notIterable sources.kind)
    else .ok .nowhere
  | some _, some members =>
    .error (if members.length < 2 then .pairTooShort members.length else .pairTooLong)

end WorkTree
