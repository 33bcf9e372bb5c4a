import WorkTree.Listing.Remotes
import WorkTree.Listing.Status
import WorkTree.Session.Basic

set_option relaxedAutoImplicit false
set_option autoImplicit false

/-!
# Questions of a session

The questions that are answered from the cache when they can be. What a command answered is kept;
that a command failed is not. All questions but the one for the version are asked only inside a
repository.

## Main definitions

* `WorkTree.Session.detectRepository`, `WorkTree.Session.isRepository`,
  `WorkTree.Session.requireRepository` — whether the directory lies in a repository.
* `WorkTree.Session.checkInstallation` — whether git can be run.
* `WorkTree.Session.cachedRead` — an answer from the cache or, failing that, from git.
* `WorkTree.Session.status`, `WorkTree.Session.currentBranch`, `WorkTree.Session.remotes` — the
  three questions about a repository.
-/

namespace WorkTree

/-! ## Answers -/

/-- The answer to the question for changes. -/
structure StatusInfo where
  status : String
  cached : Bool
  deriving DecidableEq, Repr

/-- Whether there are changes. -/
def StatusInfo.hasChanges (info : StatusInfo) : Bool :=
  info.status ≠ ""

/-- The changes one by one. -/
def StatusInfo.changes (info : StatusInfo) : List Change :=
  Change.ofStatus info.status

/-- The answer to the question for the current branch. -/
structure BranchInfo where
  branch : String
  cached : Bool
  deriving DecidableEq, Repr

/-- The answer to the question for remotes. -/
structure RemotesInfo where
  remotes : String
  cached : Bool
  deriving DecidableEq, Repr

/-- The names of the remotes. -/
def RemotesInfo.names (info : RemotesInfo) : List String :=
  Remote.namesIn info.remotes

namespace Session

/-! ## Detection -/

/-- Whether a completed command says that it ran inside a repository. -/
def affirms (completion : Completion) : Bool :=
  completion.ok && Text.strip completion.out == "true"

/-- Whether the directory lies in a repository. A command that did not complete says nothing about
the directory and leaves the cache as it is. -/
def detectRepository (w : Workspace) : Session Bool := do
  match ← readSlot .isRepository with
  | some value => return value.truthy
  | none =>
    match ← Action.attempt (git w .insideWorkTree) with
    | .error cause =>
      log .debug ("Repository detection failed: " ++ cause.message)
      Action.fail cause
    | .ok completion =>
      writeSlot .isRepository (.bool (affirms completion))
      return affirms completion

/-- Whether the directory is known to lie in a repository. -/
def isRepository (w : Workspace) : Session Bool := do
  match ← Action.attempt (detectRepository w) with
  | .ok answer => return answer
  | .error _ => return false

/-- Fails outside a repository. -/
def requireRepository (w : Workspace) : Session Unit := do
  Action.ensure (← detectRepository w) (.notARepository w.directory)

/-! ## Installation -/

/-- What the version that git prints begins with. -/
def versionLead : List Char :=
  ['g', 'i', 't', ' ', 'v', 'e', 'r', 's', 'i', 'o', 'n']

/-- Whether git can be run and gives a version, which is kept. -/
def checkInstallation (w : Workspace) : Session Bool := do
  match ← readSlot .version with
  | some _ => return true
  | none =>
    match ← Action.attempt (gitChecked w .version) with
    | .error cause =>
      log .debug ("git is not available: " ++ cause.message)
      return false
    | .ok output =>
      if versionLead.isPrefixOf output.toList then
        writeSlot .version (.text (Text.strip output))
        return true
      else
        log .debug ("Unexpected git --version output: " ++ Text.quoted output)
        return false

/-! ## Questions about a repository -/

/-- What a slot holds, or else what the loader answers, which is kept; and whether it was in the
cache. -/
def cachedRead (w : Workspace) (slot : Slot) (loader : Session String) :
    Session (String × Bool) := do
  requireRepository w
  match ← readSlot slot with
  | some value => return (value.asText, true)
  | none =>
    let value ← loader
    writeSlot slot (.text value)
    return (value, false)

/-- What a command prints, without the blanks at its end. -/
def trimmedOutput (w : Workspace) (command : Command) : Session String := do
  return Text.stripEnd (← gitChecked w command)

/-- Asks git for the current branch. Git says nothing, with exit code one, when no branch is checked
out. -/
def readCurrentBranch (w : Workspace) : Session String := do
  let completion ← git w .currentBranch
  if completion.ok then
    return Text.strip completion.out
  else if completion.hasCode 1 ∧ Text.strip completion.err = "" then
    Action.fail (.headDetached w.directory)
  else
    Action.fail (.headUnreadable Command.currentBranchWords completion)

/-- The changes in the working tree. -/
def status (w : Workspace) : Session StatusInfo := do
  let (status, cached) ← cachedRead w .status (trimmedOutput w .status)
  return { status, cached }

/-- The branch that is checked out. -/
def currentBranch (w : Workspace) : Session BranchInfo := do
  let (branch, cached) ← cachedRead w .branch (readCurrentBranch w)
  return { branch, cached }

/-- The remotes of the repository. -/
def remotes (w : Workspace) : Session RemotesInfo := do
  let (remotes, cached) ← cachedRead w .remotes (trimmedOutput w .remotes)
  return { remotes, cached }

/-- The name of the current branch, as far as it can be found out. -/
def currentBranchName? (w : Workspace) : Session (Option String) := do
  match ← Action.attempt (currentBranch w) with
  | .ok info => return some info.branch
  | .error _ => return none

/-- The version of git that the cache holds. -/
def knownVersion : Session (Option Value) :=
  readSlot .version

end Session

end WorkTree
