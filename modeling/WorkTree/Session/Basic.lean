import WorkTree.Cache
import WorkTree.Command
import WorkTree.Runner.Basic

set_option relaxedAutoImplicit false
set_option autoImplicit false

/-!
# Sessions

A session works in one directory of a host. It gives commands to git and keeps a cache of answers;
both the cache and what git will answer are its state.

## Main definitions

* `WorkTree.Workspace` — the host and the runner of a session.
* `WorkTree.Session.State` — the cache, and the replies that are to come.
* `WorkTree.Session` — the actions of sessions.
* `WorkTree.Session.git`, `WorkTree.Session.gitChecked` — running a command.
* `WorkTree.Session.readSlot`, `WorkTree.Session.writeSlot`, `WorkTree.Session.invalidate` — the
  cache.
-/

namespace WorkTree

/-- Where a session works. -/
structure Workspace where
  host : Host
  runner : Runner

/-- The directory of a session. -/
def Workspace.directory (w : Workspace) : Path :=
  w.runner.directory

/-- What changes in the course of a session. -/
structure Session.State where
  cache : Cache
  script : Script

/-- The actions of sessions. -/
abbrev Session (α : Type) : Type :=
  Action Session.State α

namespace Session

/-- The state of a session that begins. -/
def State.initial (script : Script) : State :=
  { cache := {}, script }

/-- An action of a runner, as part of a session. -/
def ofRunner {α : Type} (action : Action Script α) : Session α := fun state =>
  let r := action state.script
  { outcome := r.outcome, state := { state with script := r.state }, events := r.events }

/-- Runs a command and answers with what it leaves, whatever the exit code. -/
def git (w : Workspace) (command : Command) : Session Completion :=
  ofRunner (w.runner.withTexts w.host command.args command.isLocal fun args =>
    w.runner.run w.host args command.isLocal)

/-- Runs a command that has to succeed and answers with what it printed. -/
def gitChecked (w : Workspace) (command : Command) : Session String :=
  ofRunner (w.runner.withTexts w.host command.args command.isLocal fun args =>
    w.runner.runChecked w.host args command.isLocal)

/-- Writes to the log of the sessions. -/
def log (severity : Log.Severity) (message : String) : Session Unit :=
  Action.log severity .session message

/-! ## The cache -/

/-- What a slot holds. -/
def readSlot (slot : Slot) : Session (Option Value) := do
  return (← Action.get).cache.get slot

/-- Puts a value into a slot. -/
def writeSlot (slot : Slot) (value : Value) : Session Unit :=
  Action.modify fun state => { state with cache := state.cache.set slot value }

/-- Unsets the slots that a mutation outdates, and says so in the log if there are any. -/
def invalidate (mutation : Mutation) : Session Unit := do
  let slots := mutation.invalidates
  Action.onlyIf (!slots.isEmpty) (log .debug
    (mutation.name ++ " invalidated " ++ String.intercalate ", " (slots.map Slot.name)))
  Action.modify fun state => { state with cache := state.cache.invalidate slots }

/-- Unsets every slot. -/
def clearCache (w : Workspace) : Session Unit := do
  Action.modify fun state => { state with cache := state.cache.clear }
  log .debug ("Cache cleared for " ++ w.directory.text)

end Session

end WorkTree
