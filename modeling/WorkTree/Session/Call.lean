import WorkTree.Session.Changes
import WorkTree.Session.Cleanup
import WorkTree.Session.Health
import WorkTree.Settings

set_option relaxedAutoImplicit false
set_option autoImplicit false

/-!
# Calls

Everything that a session can be asked to do, as one type, and what is answered to it.

## Main definitions

* `WorkTree.Call` — what a session can be asked to do.
* `WorkTree.Answer` — what a session answers.
* `WorkTree.Session.perform` — the action of a call.
* `WorkTree.Workspace.ofSettings`, `WorkTree.Workspace.create`, `WorkTree.Workspace.reopen` — the
  workspace that settings describe.
-/

namespace WorkTree

/-- What a session can be asked to do. -/
inductive Call where
  | checkInstallation
  | isRepository
  | version
  | status
  | currentBranch
  | remotes
  | health
  | overview
  | validateBranchName (name lead : Value)
  | createBranch (name : Value) (checkout : Flag)
  | checkoutBranch (name : Value)
  | deleteBranch (name : Value) (force : Flag)
  | listBranches
  | commit (message files : Value)
  | push (remote branch : Value)
  | cleanup (target : Value) (dryRun : Bool)
  | clearCache

/-- What a session answers. -/
inductive Answer where
  | nothing
  | flag (b : Bool)
  | slot (content : Option Value)
  | status (info : StatusInfo)
  | branch (info : BranchInfo)
  | remotes (info : RemotesInfo)
  | health (report : HealthReport)
  | overview (overview : Overview)
  | validation (validation : BranchName.Validation Value)
  | created (info : BranchCreated)
  | checkedOut (info : BranchCheckedOut)
  | deleted (info : BranchDeleted)
  | branches (listing : BranchListing)
  | committed (info : CommitInfo)
  | pushed (info : PushInfo)
  | cleaned (report : CleanupReport)
  deriving DecidableEq, Repr

/-- Whether a call can be answered with a failure; the other calls have an answer in every case. -/
def Call.isFallible : Call → Bool
  | .status | .currentBranch | .remotes | .createBranch _ _ | .checkoutBranch _ | .deleteBranch _ _
  | .listBranches | .commit _ _ | .push _ _ | .cleanup _ _ => true
  | _ => false

namespace Session

/-- Does what a call asks for. -/
def perform (w : Workspace) : Call → Session Answer
  | .checkInstallation => .flag <$> checkInstallation w
  | .isRepository => .flag <$> isRepository w
  | .version => .slot <$> knownVersion
  | .status => .status <$> status w
  | .currentBranch => .branch <$> currentBranch w
  | .remotes => .remotes <$> remotes w
  | .health => .health <$> health w
  | .overview => .overview <$> overview w
  | .validateBranchName name lead => pure (.validation (BranchName.validateValue name lead))
  | .createBranch name checkout => .created <$> createBranch w name checkout
  | .checkoutBranch name => .checkedOut <$> checkoutBranch w name
  | .deleteBranch name force => .deleted <$> deleteBranch w name force
  | .listBranches => .branches <$> listBranches w
  | .commit message files => .committed <$> commit w message files
  | .push remote branch => .pushed <$> push w remote branch
  | .cleanup target dryRun => .cleaned <$> cleanup w target dryRun
  | .clearCache => (fun _ => .nothing) <$> clearCache w

end Session

/-! ## Opening a session -/

namespace Workspace

/-- The workspace that settings describe. -/
def ofSettings (host : Host) (settings : Settings) : Workspace :=
  ⟨host, { directory := settings.projectPath
           limit := .whole settings.timeout settings.timeout_pos }⟩

/-- What a caller gives for the two settings of a session. -/
def given (projectPath timeout : Value) : Given :=
  [(Setting.name .projectPath, projectPath), (Setting.name .timeout, timeout)]

/-- The workspace for what a caller gives, with some environment variables set meanwhile. -/
def create (library : Settings.Library) (host : Host) (updates : List (String × Value))
    (projectPath timeout : Value) : Except Settings.Rejection Workspace :=
  (Settings.load library host updates (given projectPath timeout)).1.map (ofSettings host)

/-- The workspace for settings that were made before, with some environment variables set
meanwhile. -/
def reopen (library : Settings.Library) (host : Host) (updates : List (String × Value))
    (settings : Settings) : Except Settings.Rejection Workspace :=
  create library host updates (.path settings.projectPath) (.int settings.timeout)

end Workspace

end WorkTree
