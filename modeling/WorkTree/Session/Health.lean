import WorkTree.Result
import WorkTree.Session.Reads

set_option relaxedAutoImplicit false
set_option autoImplicit false

/-!
# The health of a repository

All questions of a session put together in one report. A report is given in every case; what could
not be found out is left open, and the first failure is named.

## Main definitions

* `WorkTree.HealthReport`, `WorkTree.Session.health` — the report.
* `WorkTree.Overview`, `WorkTree.Session.overview` — the report with the raw listings.
* `WorkTree.Sheet`, `WorkTree.Sheet.entries`, `WorkTree.Sheet.ofNamed` — an overview as a list of
  named values, and the way back.
-/

namespace WorkTree

/-- A report on the state of a repository. -/
structure HealthReport where
  healthy : Bool
  isRepository : Bool
  version : Option Value := none
  currentBranch : Option String := none
  hasUncommittedChanges : Option Bool := none
  hasRemote : Option Bool := none
  error : Option String := none
  deriving DecidableEq, Repr

/-- A report with the raw listings of changes and remotes. -/
structure Overview where
  isRepository : Bool
  healthy : Bool
  error : Option String
  version : Option Value := none
  currentBranch : Option String := none
  hasUncommittedChanges : Bool := false
  hasRemote : Bool := false
  status : Option String := none
  remotes : Option String := none
  deriving DecidableEq, Repr

/-! ## Sheets -/

/-- An overview with a value of no fixed type in each place, and the time it was made. -/
structure Sheet where
  isRepository : Value
  healthy : Value
  error : Value := .null
  version : Value := .null
  currentBranch : Value := .null
  hasUncommittedChanges : Value := .bool false
  hasRemote : Value := .bool false
  status : Value := .null
  remotes : Value := .null
  timestamp : Value := .null

/-- The sheet of an overview, without a time. -/
def Overview.sheet (overview : Overview) : Sheet where
  isRepository := .bool overview.isRepository
  healthy := .bool overview.healthy
  error := .ofText? overview.error
  version := overview.version.getD .null
  currentBranch := .ofText? overview.currentBranch
  hasUncommittedChanges := .bool overview.hasUncommittedChanges
  hasRemote := .bool overview.hasRemote
  status := .ofText? overview.status
  remotes := .ofText? overview.remotes

/-- The names of the places that always have a value. -/
def Sheet.requiredNames : List String :=
  ["is_git_repository", "healthy"]

/-- The names of the places on a sheet, in their order. -/
def Sheet.names : List String :=
  requiredNames ++ ["error", "git_version", "current_branch", "has_uncommitted_changes",
    "has_remote", "status", "remotes", "timestamp"]

/-- The values on a sheet, in the order of the places. -/
def Sheet.values (sheet : Sheet) : List Value :=
  [sheet.isRepository, sheet.healthy, sheet.error, sheet.version, sheet.currentBranch,
    sheet.hasUncommittedChanges, sheet.hasRemote, sheet.status, sheet.remotes, sheet.timestamp]

/-- The places that are shown even when they are left open. -/
def Sheet.shownNames : List String :=
  requiredNames ++ ["error"]

/-- The names on a sheet with their values. The first three are always there, the others only when
they have a value. -/
def Sheet.entries (sheet : Sheet) : List (String × Value) :=
  (names.zip sheet.values).filter fun entry => !entry.2.isNull || shownNames.contains entry.1

/-- What a sheet is made of: a value for each place. -/
def Sheet.signature : Signature where
  operation := "ComprehensiveInfo.__init__"
  required := requiredNames
  optional := names
  bound := ["self"]

/-- The sheet that names and values describe; the places without a value are left as they are on a
blank sheet, save those that have to be given. -/
def Sheet.ofNamed (fields : List (String × Value)) : Except Fault Sheet :=
  signature.apply fields fun value =>
    { isRepository := value "is_git_repository" .null
      healthy := value "healthy" .null
      error := value "error" .null
      version := value "git_version" .null
      currentBranch := value "current_branch" .null
      hasUncommittedChanges := value "has_uncommitted_changes" (.bool false)
      hasRemote := value "has_remote" (.bool false)
      status := value "status" .null
      remotes := value "remotes" .null
      timestamp := value "timestamp" .null }

namespace Session

/-! ## Reports -/

/-- The wording when git cannot be run although every question was answered. -/
def notInstalledMessage : String :=
  "git executable is not available"

/-- What a part of an answer is, if there was an answer. -/
def part? {α β : Type} (f : α → β) : Except Cause α → Option β
  | .ok a => some (f a)
  | .error _ => none

/-- The cause of a failure, if an answer is one. -/
def ignoreAnswer {α : Type} (answer : Except Cause α) : Except Cause Unit :=
  answer.map fun _ => ()

/-- Asks all questions and reports. -/
def health (w : Workspace) : Session HealthReport := do
  match ← Action.attempt (detectRepository w) with
  | .error cause =>
    return { healthy := false, isRepository := false, error := some cause.message }
  | .ok false =>
    return { healthy := false, isRepository := false, error := some Failure.notARepositoryMessage }
  | .ok true =>
    let installed ← checkInstallation w
    let branch ← Action.attempt (currentBranch w)
    let status ← Action.attempt (status w)
    let remotes ← Action.attempt (remotes w)
    let version ← knownVersion
    let error :=
      match firstError? [ignoreAnswer branch, ignoreAnswer status, ignoreAnswer remotes] with
      | some cause => some cause.message
      | none => if installed then none else some notInstalledMessage
    return {
      healthy := error.isNone
      isRepository := true
      version
      currentBranch := part? BranchInfo.branch branch
      hasUncommittedChanges := part? StatusInfo.hasChanges status
      hasRemote := part? (fun info => !info.names.isEmpty) remotes
      error }

/-- The report with the raw listings, for which the two questions are asked once more. -/
def overview (w : Workspace) : Session Overview := do
  let report ← health w
  if report.isRepository then
    let status ← Action.attempt (status w)
    let remotes ← Action.attempt (remotes w)
    return {
      isRepository := true
      healthy := report.healthy
      error := report.error
      version := report.version
      currentBranch := report.currentBranch
      hasUncommittedChanges := report.hasUncommittedChanges.getD false
      hasRemote := report.hasRemote.getD false
      status := part? StatusInfo.status status
      remotes := part? RemotesInfo.remotes remotes }
  else
    return { isRepository := false, healthy := false, error := report.error }

end Session

end WorkTree
