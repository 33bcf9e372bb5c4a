import WorkTree.Entries
import WorkTree.Value.Members

set_option relaxedAutoImplicit false
set_option autoImplicit false

/-!
# Environment variables

The variables of a process, in the order in which they were set, with distinct names. Variables
can be set for the duration of a computation; afterwards the environment is given back as it was.

## Main definitions

* `WorkTree.Environment` — variables with distinct names.
* `WorkTree.Environment.put`, `WorkTree.Environment.setAll` — sets one variable, and sets some
  until one of them cannot be set.
* `WorkTree.Environment.updatesOf` — the variables that a value says are to be set.
* `WorkTree.Environment.restore` — empties the environment and sets again what was saved.
* `WorkTree.Environment.during` — a computation with some variables set.
-/

namespace WorkTree

/-- The variables of a process, in the order in which they were set. -/
structure Environment where
  entries : List (String × String)
  nodup : (entries.map Prod.fst).Nodup := by decide

namespace Environment

/-- No variable at all. -/
def empty : Environment :=
  ⟨[], by simp⟩

/-- The value of a variable. -/
def get? (env : Environment) (name : String) : Option String :=
  env.entries.lookup name

/-- The environment with a value under a name, whatever the operating system says to either. -/
def put (env : Environment) (entry : String × String) : Environment :=
  ⟨Entries.put entry.1 entry.2 env.entries, Entries.nodup_keys_put env.nodup⟩

/-- The text that a caller gives as the value of a variable, unless something keeps the variable
from being set: a value that is no text comes first, then the character U+0000 in a text, then a
name with an equals sign, and then an empty name. -/
def settable (name : String) (value : Value) : Except Fault String :=
  let hasNul (s : String) := s.toList.any (·.toNat == 0)
  match value with
  | .text s =>
    if hasNul name || hasNul s then .error .embeddedNul
    else if '=' ∈ name.toList then .error .variableNameIllegal
    else if name = "" then .error .variableNameEmpty
    else .ok s
  | v => .error (.variableNotText v.kind)

/-- Sets variables one after the other and stops at the first one that cannot be set; those before
it stay set. -/
def setAll (env : Environment) : List (String × Value) → Except Fault Unit × Environment
  | [] => (.ok (), env)
  | (name, value) :: rest =>
    match settable name value with
    | .error fault => (.error fault, env)
    | .ok text => (env.put (name, text)).setAll rest

/-- A name and a value, as a member of a list gives them that has `position` others in front. -/
def updateOf (position : Nat) (v : Value) : Except Fault (String × Value) :=
  match v.members? with
  | none => .error (.entryNotAPair position)
  | some [.text name, value] => .ok (name, value)
  | some [name, _] => .error (.variableNotText name.kind)
  | some members => .error (.entryMissized position members.length)

/-- The variables that a value says are to be set: those of a record by their names, or names and
values in pairs. -/
def updatesOf : Value → Except Fault (List (String × Value))
  | .null => .ok []
  | .record fields => .ok fields
  | v => do (← v.members).zipIdx.mapM fun (member, position) => updateOf position member

/-- The environment that is left when everything is removed and the saved variables are set
again. -/
def restore (saved : Environment) : Environment :=
  saved.entries.foldl put empty

/-- Runs a computation in the environment with some variables set, and gives the environment back
as it was saved. A variable that cannot be set ends this before the computation begins, with the
variables before it still set. -/
def during {α : Type} (env : Environment) (updates : List (String × Value))
    (computation : Environment → α) : Except Fault α × Environment :=
  match env.setAll updates with
  | (.error fault, env') => (.error fault, env')
  | (.ok (), env') => (.ok (computation env'), env.restore)

end Environment

end WorkTree
