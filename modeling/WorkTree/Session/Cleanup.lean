import WorkTree.Session.Branches

set_option relaxedAutoImplicit false
set_option autoImplicit false

/-!
# Deleting merged branches

Local branches that are merged into a target branch are deleted, save the target and the current
branch. What git refuses to delete is reported and does not stop the others.

## Main definitions

* `WorkTree.CleanupReport` — what was found and what became of it.
* `WorkTree.Session.cleanup` — the operation.
-/

namespace WorkTree

/-- The answer of the operation: the merged branches, those that were deleted, and those that could
not be, each with a message. -/
structure CleanupReport where
  target : Value
  merged : List String
  deleted : List String := []
  dryRun : Bool
  failed : List (String × String) := []
  deriving DecidableEq, Repr

namespace CleanupReport

/-- The report with one more branch deleted. -/
def addDeleted (report : CleanupReport) (name : String) : CleanupReport :=
  { report with deleted := report.deleted ++ [name] }

/-- The report with a message for a branch that could not be deleted; a later message for the same
branch takes the place of the former. -/
def addFailed (report : CleanupReport) (name message : String) : CleanupReport :=
  { report with failed := Entries.put name message report.failed }

end CleanupReport

namespace Session

/-- Tries to delete one branch after the other and enters in the report what became of each. -/
def deleteEach (w : Workspace) : List String → CleanupReport → Session CleanupReport
  | [], report => pure report
  | name :: rest, report => do
    match ← Action.attempt (gitChecked w (.deleteBranch (.text name) false)) with
    | .ok _ => deleteEach w rest (report.addDeleted name)
    | .error cause =>
      log .warning ("Could not delete merged branch " ++ name ++ ": " ++ cause.message)
      deleteEach w rest (report.addFailed name cause.message)

/-- Deletes the local branches that are merged into the target, or only reports them. The target and
the current branch are kept out as members of a set. -/
def cleanup (w : Workspace) (target : Value) (dryRun : Bool) : Session CleanupReport := do
  requireRepository w
  requireBranch w target
  let output ← gitChecked w (.listMerged target.asText)
  let current ← currentBranchName? w
  Action.orAbort target.requireHashable
  let merged := Listing.mergedNames (target.text?.toList ++ current.toList) output
  let found : CleanupReport := { target, merged, dryRun }
  if dryRun then
    return found
  else
    let report ← deleteEach w merged found
    invalidate .cleanupMergedBranches
    log .info ("Cleaned up " ++ toString report.deleted.length ++ " merged branch(es) into " ++
      target.asText)
    return report

end Session

end WorkTree
