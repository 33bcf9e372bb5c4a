import WorkTree.Settings.Setting
import WorkTree.Value.Agreement
import WorkTree.Value.Members

set_option relaxedAutoImplicit false
set_option autoImplicit false

/-!
# The arguments of a command line

Settings on a command line go by flags. A flag is a name behind a mark, which stands there once if
the name has a single character, and twice if it has more. A setting goes by its own name, with a
lead in front of it, and by shortcuts that the caller adds to its names. One argument more asks for
an explanation of the command line. No two arguments share a flag.

## Main definitions

* `WorkTree.CommandLine.Argument` — what a flag stands for, with all flags for it.
* `WorkTree.CommandLine.Style` — how flags are written.
* `WorkTree.CommandLine.argumentsFor` — all arguments, in a style and with the shortcuts of a
  caller.
-/

namespace WorkTree.CommandLine

/-- What an argument is for: to have the command line explained, or to give a setting. -/
inductive Purpose where
  | explanation
  | setting (setting : Setting)
  deriving DecidableEq, Repr

/-- An argument: what it is for, and its flags. -/
structure Argument where
  purpose : Purpose
  flags : List String
  deriving DecidableEq, Repr

/-- How messages call some flags of one argument. -/
def flagsText (flags : List String) : String :=
  String.intercalate "/" flags

/-! ## Names and flags -/

/-- How flags are written: the mark that they begin with, what stands in front of the names of
settings, and whether the parts of these names are joined by hyphens. -/
structure Style where
  mark : String := "-"
  lead : String := ""
  hyphenated : Bool := false
  deriving DecidableEq, Repr

namespace Style

/-- The name of a setting on a command line. -/
def nameOf (style : Style) (setting : Setting) : String :=
  let hyphen (c : Char) : Char := if style.hyphenated && c = '_' then '-' else c
  style.lead ++ setting.name.map hyphen

/-- A name of `size` characters as a flag. -/
def flag (style : Style) (size : Nat) (name : String) : String :=
  String.ofList ((style.mark ++ style.mark).toList.take size) ++ name

/-- The flag that a name is written as, which needs a length and is mostly a text. -/
def flagOf (style : Style) (name : Value) : Except Fault String := do
  return style.flag (← name.size) name.asText

/-- Refuses a flag that does not begin with a character of the mark. -/
def requireMark (style : Style) (flag : String) : Except Fault Unit :=
  match flag.toList with
  | [] => .error .textTooShort
  | c :: _ =>
    if style.mark.toList.contains c then .ok ()
    else .error (.flagMalformed flag (Text.quoted style.mark))

/-- The argument that asks for an explanation, by a short name and a long one. -/
def explanation (style : Style) : Argument :=
  let chars := style.mark.toList
  let mark : Style := { mark := if chars.contains '-' then "-" else String.ofList (chars.take 1) }
  ⟨.explanation, [mark.flag 1 "h", mark.flag 2 "help"]⟩

end Style

/-! ## Shortcuts -/

/-- Names with those added that a caller wants for some of them, save the names that are taken. A
shortcut may be for a name that another one has added. -/
def withShortcuts (taken : List Value) : List (String × Value) → List Value →
    Except Fault (List Value)
  | [], names => .ok names
  | (target, added) :: rest, names =>
    if names.contains (.text target) then do
      let added ← match added with
        | .text s => .ok [.text s]
        | v => v.members
      withShortcuts taken rest (names ++ added.filter fun name => !taken.any name.agrees)
    else withShortcuts taken rest names

/-- The shortcuts that a value stands for: a record has them by their targets. -/
def shortcutsOf (v : Value) : Except Fault (List (String × Value)) :=
  match v with
  | .record fields => .ok fields
  | v => if v.truthy then .error (.attributeMissing v.kind "items") else .ok []

/-! ## All arguments -/

/-- Refuses an argument with flags that other arguments have. -/
def requireFree (arguments : List Argument) (flags : List String) : Except Fault Unit :=
  match flags.filter fun flag => arguments.any (·.flags.contains flag) with
  | [] => .ok ()
  | shared => .error (.flagsTaken (flagsText flags) shared)

/-- Adds the argument of a setting to others, whose names are taken. A setting whose own name is
taken gets no argument. -/
def addSetting (style : Style) (shortcuts : List (String × Value))
    (state : List Argument × List Value) (setting : Setting) :
    Except Fault (List Argument × List Value) := do
  let (arguments, taken) := state
  let own := Value.text (style.nameOf setting)
  let names ← withShortcuts taken shortcuts (if taken.contains own then [] else [own])
  if names.isEmpty then return state
  let flags ← names.mapM style.flagOf
  flags.forM style.requireMark
  requireFree arguments flags
  return (arguments ++ [⟨.setting setting, flags⟩], taken ++ names)

/-- All arguments: the one for an explanation, and one for each setting. -/
def argumentsFor (style : Style) (shortcuts : List (String × Value)) :
    Except Fault (List Argument) :=
  (Setting.all.foldlM (addSetting style shortcuts) ([style.explanation], [])).map Prod.fst

end WorkTree.CommandLine
