import WorkTree.Host.Basic
import WorkTree.Value.Members

set_option relaxedAutoImplicit false
set_option autoImplicit false

/-!
# Places of further settings

A caller may name files that hold settings, and directories that hold secrets. In the directories of
a host there is neither, so nothing is read from them; but a place has to be one that can be looked
at. A relative file may be looked for in the directories above as well, as many as the caller says.

## Main definitions

* `WorkTree.Places.ofValue` — the places that a value names.
* `WorkTree.Places.lookForFiles`, `WorkTree.Places.lookForSecrets` — looks at places.
-/

namespace WorkTree.Places

/-- The places that a value names: none, a single one, or its members. -/
def ofValue : Value → Except Fault (List Value)
  | .null => .ok []
  | .text s => .ok [.text s]
  | .path p => .ok [.path p]
  | v => v.members

/-- The path of a place, with a home directory in the place of a leading `~`. -/
def locate (host : Host) (place : Value) : Except Fault Path := do
  match host.expandHome (← place.toPath) with
  | .ok path => return path
  | .error .homeUnknown => throw .homeUnknown
  | .error .embeddedNul => throw .embeddedNul

/-- What is found at a path, unless the file system refuses to look. -/
def look (host : Host) (path : Path) : Except Fault Host.Look :=
  match host.look path with
  | .nameTooLong => .error (.nameTooLong path)
  | found => .ok found

/-- Whether a number is zero or negative. -/
def isAtMostZero : Value → Except Fault Bool
  | .int n => .ok (n ≤ 0)
  | .bool b => .ok !b
  | .real x => .ok x.isAtMostZero
  | v => .error (.notComparable v.kind)

/-- The largest count of directories. -/
def maxDepth : Int :=
  Int.pow 2 63 - 1

/-- Refuses what is no count of directories; no count stands for none. -/
def requireDepth (path : Path) (depth : Value) : Except Fault Unit := do
  if depth.isNull then return
  if (← isAtMostZero depth) || path.root ≠ .relative then return
  match depth with
  | .real _ => throw .notACount
  | .int n => if maxDepth < n then throw .notACount
  | _ => return

/-- Whether a value is the path of the current directory, which names no file. -/
def isCurrentDirectory (v : Value) : Bool :=
  v = .path ⟨.relative, []⟩

/-- Looks for settings files, one place after the other, and in `depth` directories above. -/
def lookForFiles (host : Host) (places depth : Value) : Except Fault Unit := do
  if isCurrentDirectory places then return
  for place in ← ofValue places do
    let path ← locate host place
    let _ ← look host path
    requireDepth path depth

/-- Looks for secrets, which only directories hold. All places are located before the first one is
looked at. -/
def lookForSecrets (host : Host) (places : Value) : Except Fault Unit := do
  let paths ← (← ofValue places).mapM (locate host)
  for path in paths do
    if (← look host path) = .device then throw .secretsInDevice

end WorkTree.Places
