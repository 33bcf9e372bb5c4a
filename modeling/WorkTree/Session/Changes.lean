import WorkTree.Session.Reads

set_option relaxedAutoImplicit false
set_option autoImplicit false

/-!
# Committing and pushing

Recording changes in the repository and sending them to a remote. A commit takes either everything
that has changed or the files that are named, and then nothing else.

## Main definitions

* `WorkTree.CommitScope`, `WorkTree.CommitScope.ofFiles` — what a commit takes, and what the files
  that a caller names come to.
* `WorkTree.Session.commit`, `WorkTree.Session.push` — the operations.
-/

namespace WorkTree

/-! ## What a commit takes -/

/-- What a commit takes: everything that has changed, or some paths. -/
inductive CommitScope where
  | everything
  | only (paths : List String)
  deriving DecidableEq, Repr

namespace CommitScope

/-- The scope of some paths; no path at all means everything. -/
def ofPaths : List String → CommitScope
  | [] => .everything
  | paths => .only paths

/-- The paths that a caller names, in order. A text or a path is a single one; a list names its
members and a record its fields. A value that counts as no names nothing, and any other value is
refused. -/
def pathsOf : Value → Except Fault (List String)
  | .text s => .ok [s]
  | .path p => .ok [p.text]
  | .list items => .ok (items.map Value.asText)
  | .record fields => .ok (fields.map Prod.fst)
  | v => if v.truthy then .error (.notIterable v.kind) else .ok []

/-- What a commit takes for the files that a caller names. -/
def ofFiles (files : Value) : Except Fault CommitScope :=
  (pathsOf files).map ofPaths

/-- The command that stages what a commit takes. -/
def stageCommand : CommitScope → Command
  | .everything => .stageAll
  | .only paths => .stage paths

/-- The command that commits. -/
def commitCommand (message : String) : CommitScope → Command
  | .everything => .commitStaged message
  | .only paths => .commitPaths message paths

/-- How everything is called in answers and in the log. -/
def everythingText : String :=
  "all files"

/-- The scope in one line. -/
def text : CommitScope → String
  | .everything => everythingText
  | .only paths => String.intercalate ", " paths

end CommitScope

/-! ## Answers -/

/-- The answer of the operation that commits. -/
structure CommitInfo where
  message : String
  scope : CommitScope
  deriving DecidableEq, Repr

/-- The answer of the operation that pushes. -/
structure PushInfo where
  remote : Value
  branch : Value
  deriving DecidableEq, Repr

namespace Session

/-! ## Operations -/

/-- The text of a commit message; a message of another kind is a fault. -/
def messageText : Value → Except Fault String
  | .text s => .ok s
  | v => .error (.messageNotText v.kind)

/-- Stages and commits the named files, or everything when none is named. -/
def commit (w : Workspace) (message files : Value) : Session CommitInfo := do
  let message ← Action.orAbort (messageText message)
  requireRepository w
  let scope ← Action.orAbort (CommitScope.ofFiles files)
  let _ ← gitChecked w scope.stageCommand
  let _ ← gitChecked w (scope.commitCommand message)
  invalidate .commitChanges
  log .info ("Committed " ++ scope.text)
  return { message, scope }

/-- The remote that is pushed to unless another one is named. -/
def defaultRemote : String :=
  "origin"

/-- The branch that a caller names, or else the current one. -/
def branchOrCurrent (w : Workspace) : Value → Session Value
  | .null => do return .text (← currentBranch w).branch
  | branch => pure branch

/-- Pushes a branch, or the current one when none is named, to a remote. -/
def push (w : Workspace) (remote branch : Value) : Session PushInfo := do
  requireRepository w
  let branch ← branchOrCurrent w branch
  let _ ← gitChecked w (.push remote branch)
  invalidate .pushChanges
  log .info ("Pushed " ++ branch.asText ++ " to " ++ remote.asText)
  return { remote, branch }

end Session

end WorkTree
