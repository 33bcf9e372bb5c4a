import WorkTree.Number.Numeral
import WorkTree.Settings.Library
import WorkTree.Settings.Source

set_option relaxedAutoImplicit false
set_option autoImplicit false

/-!
# The standard library of settings

The library that settings are used with finds a value on a command line, or with the caller, or in a
variable, and reads numbers in texts.

## Main definitions

* `WorkTree.Settings.Standard.integerOf`, `WorkTree.Settings.Standard.pathOf` — the integer and the
  path that a value stands for.
* `WorkTree.Settings.Standard.find` — the values that are found on a host.
* `WorkTree.Settings.Library.standard` — the library.
-/

namespace WorkTree.Settings

namespace Standard

/-! ## Reading values -/

/-- Floating-point numbers stand for integers below this absolute value only. -/
def realBound : Nat :=
  Nat.pow 2 63

/-- The integer that a floating-point number without a fraction is. -/
def integerOfReal : Double → Except Reason Int
  | .finite x =>
    if !x.isIntegral then .error .fractional
    else if x.truncateAbs < realBound then .ok x.truncate
    else .error .tooLarge
  | .infinite _ | .notANumber => .error .notFinite

/-- The integer that a value stands for. -/
def integerOf : Value → Except Reason Int
  | .int n => .ok n
  | .bool b => .ok (if b then 1 else 0)
  | .real x => integerOfReal x
  | .text s =>
    match Numeral.integer s with
    | .ok n => .ok n
    | .error .malformed => .error .notAnInteger
    | .error .tooLong => .error .tooLarge
  | .null | .path _ | .list _ | .record _ => .error .notNumeric

/-- The path that a value stands for. A path is read again from its text. -/
def pathOf : Value → Except Reason Path
  | .text s => .ok (Path.ofString s)
  | .path p => .ok (Path.ofString p.text)
  | _ => .error .notAPath

/-! ## Finding values -/

/-- The name under which settings are given to themselves. -/
def selfName : String :=
  Given.internalName "self"

/-- How settings are looked for when a caller gives something, or nothing if they are not looked for
at all. -/
def lookupFor? (host : Host) (given : Given) : Except Fault (Option Lookup) := do
  given.requireFree selfName "BaseSettings.__init__"
  match ← Sources.ofValue (given.option "_build_sources") with
  | .nowhere => return none
  | .usual => return some (← Lookup.ofGiven host given)

/-- The values of settings on a host. Where nothing is looked for, nothing is found. -/
def find (host : Host) (given : Given) : Except Fault Found := do
  match ← lookupFor? host given with
  | none => return { value? := fun _ => none, unknownNames := [] }
  | some lookup =>
    return { value? := lookup.value? host.environment given, unknownNames := given.unknownNames }

end Standard

/-- The library that settings are used with. -/
def Library.standard : Library where
  reserved := Standard.selfName :: Given.options
  find := Standard.find
  pathOf := Standard.pathOf
  integerOf := Standard.integerOf

end WorkTree.Settings
