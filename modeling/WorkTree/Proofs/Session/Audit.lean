import WorkTree.Proofs.Session.FailureProvenance
import WorkTree.Proofs.Session.MergedBranches
import WorkTree.Proofs.Session.Trail

set_option relaxedAutoImplicit false
set_option autoImplicit false

/-!
# The log as an audit trail

Apart from details, the log of a session has two sorts of records. A call that is to change the
repository is noted when it is answered, and no other call is. Where merged branches are deleted one
after the other, each attempt that fails leaves a warning, with the name of the branch and the
message of the failure, in the order of the attempts. Both are shown in one walk over the calls, for
the list of all records that are more than details: it consists of the warnings that the spawns of
the call give rise to, and then of the note on its answer.

## Main definitions

* `WorkTree.recordsAt`, `WorkTree.remarksOf` — the records of a severity in a trace, and those that
  are more than details.
* `WorkTree.Answer.notice?` — what is noted of an answer.
* `WorkTree.Spawn.failure?`, `WorkTree.Call.refusals` — why a command that had to succeed did not,
  and the warnings that the spawns of a call give rise to.
* `WorkTree.Session.sweep`, `WorkTree.Session.close` — deleting merged branches, and the end of a
  call that has changed the repository.
* `WorkTree.Session.Audited` — the log tells all that happened in a session.

## Main results

* `WorkTree.Session.gitChecked_failures` — a command that has to succeed fails as its spawn says.
* `WorkTree.Session.perform_remarks` — what a call leaves in the log apart from details.
* `WorkTree.Session.history_audited` — the log of a session tells all that happened in it.
-/

namespace WorkTree

/-! ## Records of a trace -/

/-- The record that an entry of a trace is, if it is one. -/
def Event.record? : Event → Option Log.Record
  | .started _ _ => none
  | .logged record => some record

/-- The records of a trace that have a severity, in order. -/
def recordsAt (severity : Log.Severity) (events : List Event) : List Log.Record :=
  (events.filterMap Event.record?).filter fun record => record.severity = severity

/-- The records of a trace that are more than details, in order. -/
def remarksOf (events : List Event) : List Log.Record :=
  (events.filterMap Event.record?).filter fun record => record.severity ≠ .debug

/-- A trace without entries has no remarks. -/
@[simp]
lemma remarksOf_nil : remarksOf [] = [] :=
  rfl

/-- The remarks in a trace behind another come behind the remarks in that one. -/
@[simp]
lemma remarksOf_append (events events' : List Event) :
    remarksOf (events ++ events') = remarksOf events ++ remarksOf events' := by
  simp [remarksOf]

/-- The records of a higher severity are among the remarks. -/
lemma recordsAt_eq (severity : Log.Severity) (h : severity ≠ .debug) (events : List Event) :
    recordsAt severity events =
      (remarksOf events).filter fun record => record.severity = severity := by
  rw [recordsAt, remarksOf, List.filter_filter]
  congr 1
  funext record
  by_cases hrecord : record.severity = severity <;> simp [hrecord, h]

/-! ## Notes on answers -/

/-- What the log says of merged branches that were deleted. -/
def CleanupReport.notice (report : CleanupReport) : String :=
  "Cleaned up " ++ toString report.deleted.length ++ " merged branch(es) into " ++
    report.target.asText

/-- What the log says of an answer that tells of a change. -/
def Answer.notice? : Answer → Option String
  | .created info => some (Alteration.create info).notice
  | .checkedOut info => some (Alteration.checkOut info).notice
  | .deleted info => some (Alteration.delete info).notice
  | .committed info => some (Alteration.commit info).notice
  | .pushed info => some (Alteration.push info).notice
  | .cleaned report => some report.notice
  | _ => none

/-- What is said of the answer to an alteration is what is said of the alteration. -/
lemma Alteration.notice?_answer (alteration : Alteration) :
    alteration.answer.notice? = some alteration.notice := by
  cases alteration <;> rfl

/-! ## Warnings of deletions -/

/-- The cause of a failure, if an outcome is one. -/
def Outcome.cause? {α : Type} : Outcome α → Option Cause
  | .failed cause => some cause
  | .answered _ | .aborted _ => none

/-- Why a command that had to succeed did not, if that is how its spawn ended: it never completed,
or its exit code was not zero. -/
def Spawn.failure? (w : Workspace) (spawn : Spawn) : Option Cause :=
  match w.runner.verdict spawn.args spawn.reply with
  | .answered completion =>
    if completion.ok then none else some (.exited w.directory spawn.args completion)
  | .failed cause => some cause
  | .aborted _ => none

/-- The record of a merged branch that could not be deleted. -/
def Log.Record.notDeleted (name : String) (cause : Cause) : Log.Record :=
  ⟨.warning, .session, "Could not delete merged branch " ++ name ++ ": " ++ cause.message⟩

/-- The warning that an attempt to delete a merged branch gives rise to, if it failed. -/
def Spawn.refusal? (w : Workspace) (spawn : Spawn) : Option Log.Record :=
  match spawn.args with
  | ["branch", "-d", name] => (spawn.failure? w).map (.notDeleted name)
  | _ => none

/-- The warnings that the spawns of a call give rise to: those of the attempts to delete merged
branches that failed, in order. -/
def Call.refusals (call : Call) (w : Workspace) (spawns : List Spawn) : List Log.Record :=
  match call with
  | .cleanup _ false => spawns.filterMap (Spawn.refusal? w)
  | _ => []

/-- What deletes a branch, not by force, gives rise to a warning if it failed. -/
lemma Spawn.refusal?_of_deletes {spawn : Spawn} {name : String} (h : spawn.Deletes name false)
    (w : Workspace) : spawn.refusal? w = (spawn.failure? w).map (.notDeleted name) := by
  have hargs : spawn.args = ["branch", "-d", name] := h
  simp only [refusal?, hargs]

/-- What only asks gives rise to no warning. -/
lemma Spawn.refusal?_of_isReadOnly {spawn : Spawn} {command : Command}
    (hnames : command.Names spawn.args) (h : command.isReadOnly = true) (w : Workspace) :
    spawn.refusal? w = none := by
  rw [refusal?]
  split
  · next name hargs => exact absurd hargs (Spawn.not_deletes_of_isReadOnly hnames h name false)
  · rfl

/-- The warnings that spawns give rise to are of that severity. -/
lemma Call.severity_of_mem_refusals {call : Call} {w : Workspace} {spawns : List Spawn}
    {record : Log.Record} (h : record ∈ call.refusals w spawns) : record.severity = .warning := by
  unfold refusals at h
  split at h
  · obtain ⟨spawn, -, hrefusal⟩ := List.mem_filterMap.1 h
    rw [Spawn.refusal?] at hrefusal
    split at hrefusal
    · obtain ⟨cause, -, rfl⟩ := Option.map_eq_some_iff.1 hrefusal
      rfl
    · cases hrefusal
  · cases h

namespace Session

open WorkTree.Action (Keeps)

/-! ## Commands and details -/

/-- The trace has no remarks. -/
def quiet : TraceRelation State where
  holds _ events _ := remarksOf events = []
  nil _ := rfl
  append h h' := by rw [remarksOf_append, h, h', List.append_nil]

/-- What the runner writes are details. -/
lemma remarksOf_block {runner : Runner} {events : List Event} (h : runner.Block events) :
    remarksOf events = [] := by
  cases h with
  | kept => rfl
  | unstarted args => rfl
  | started invocation reply =>
    refine List.filter_eq_nil_iff.2 fun record hmem => ?_
    simp only [List.filterMap_cons, Event.record?, List.filterMap_map, List.mem_cons] at hmem
    rcases hmem with rfl | hmem
    · simp [Runner.announcement]
    · obtain ⟨found, hfound, hrecord⟩ := List.mem_filterMap.1 hmem
      obtain rfl : found = record := Option.some.inj hrecord
      simp [(Runner.isSequel_of_mem_sequel hfound).eq.2]

/-- A command that is given leaves only details in the log. -/
lemma git_keeps_quiet (w : Workspace) (command : Command) : Keeps quiet (git w command) :=
  fun state => remarksOf_block (git_block w command state)

/-- All that only looks leaves only details in the log. -/
lemma keptByLooks_quiet (w : Workspace) : KeptByLooks quiet w fun _ => True :=
  keptByLooks_of_git (fun _ _ => rfl) (fun _ _ _ => rfl) fun command _ _ =>
    git_keeps_quiet w command

/-- Where the directory exists, a command that has to succeed fails for the cause that its spawn
gives, and for no other.

**Proof sketch.** A command that fails there was started (`git_spawns_ne_nil`), and one that was
started comes to what its reply does (`git_launches`); then its exit code is looked at. -/
lemma gitChecked_failures {w : Workspace} (hlook : w.host.look w.directory = .directory)
    (command : Command) (state : State) :
    ((gitChecked w command).run state).spawns.filterMap (Spawn.failure? w) =
      ((gitChecked w command).run state).outcome.cause?.toList := by
  rw [gitChecked_eq, Action.run_bind_orFail]
  change ((git w command).run state).spawns.filterMap (Spawn.failure? w) = _
  cases w.give_run command state.script with
  | never spawns _ unanswered =>
    have hnone : ((git w command).run state).spawns = [] := spawns
    rw [hnone]
    rcases Outcome.failed_or_aborted unanswered with ⟨cause, hcause⟩ | ⟨fault, hfault⟩
    · exact absurd hnone (git_spawns_ne_nil hlook hcause)
    · rw [git_outcome, hfault]
      rfl
  | once spawn spawns names _ _ =>
    have hspawns : ((git w command).run state).spawns = [spawn] := spawns
    have hlaunch := git_launches (hspawns ▸ List.mem_singleton_self spawn)
    rw [hspawns, git_outcome, hlaunch.outcome]
    cases hverdict : w.runner.verdict spawn.args spawn.reply with
    | answered completion =>
      by_cases hok : completion.ok = true <;>
        simp [Spawn.failure?, hverdict, Outcome.judged, accept, wordsOf_of_names names, hok,
          Outcome.cause?]
    | failed cause => simp [Spawn.failure?, hverdict, Outcome.judged, Outcome.cause?]
    | aborted fault => simp [Spawn.failure?, hverdict, Outcome.judged, Outcome.cause?]

/-! ## Attempts to delete -/

/-- The remarks of a trace are the warnings that its spawns give rise to. -/
def warned (w : Workspace) : TraceRelation State where
  holds _ events _ := remarksOf events = (spawnsOf events).filterMap (Spawn.refusal? w)
  nil _ := rfl
  append h h' := by rw [remarksOf_append, h, h', spawnsOf_append, List.filterMap_append]

/-- All that only looks gives no rise to warnings, and writes none. -/
lemma keptByLooks_warned (w : Workspace) : KeptByLooks (warned w) w fun _ => True := by
  refine keptByLooks_of_git (fun _ _ => rfl) (fun _ _ _ => rfl) fun command hreadOnly _ state => ?_
  have hnone : Keeps (.every fun spawn => spawn.refusal? w = none) (git w command) :=
    git_keeps_every w fun spawn hnames => Spawn.refusal?_of_isReadOnly hnames hreadOnly w
  exact (git_keeps_quiet w command state).trans
    (List.filterMap_eq_nil_iff.2 (hnone state)).symm

/-- Warns of a branch that could not be deleted. -/
def warnOf (name : String) : Except Cause String → Session Unit
  | .ok _ => pure ()
  | .error cause =>
    log .warning ("Could not delete merged branch " ++ name ++ ": " ++ cause.message)

/-- Tries to delete one branch, and warns if that fails. -/
def tryDelete (w : Workspace) (name : String) : Session (Except Cause String) := do
  let answer ← Action.attempt (gitChecked w (.deleteBranch (.text name) false))
  warnOf name answer
  return answer

/-- The report with what became of one more branch. -/
def enter (report : CleanupReport) (name : String) : Except Cause String → CleanupReport
  | .ok _ => report.addDeleted name
  | .error cause => report.addFailed name cause.message

/-- Deleting branches one after the other tries the first one, enters what became of it, and goes
on. -/
lemma deleteEach_cons (w : Workspace) (name : String) (rest : List String)
    (report : CleanupReport) :
    deleteEach w (name :: rest) report =
      tryDelete w name >>= fun answer => deleteEach w rest (enter report name answer) := by
  rw [deleteEach, tryDelete, bind_assoc]
  congr 1
  funext answer
  cases answer with
  | ok output => rfl
  | error cause => rfl

/-- Where the directory exists, what deletes a branch gives rise to a warning exactly if it fails,
and then with its cause. -/
lemma refusals_of_deletion {w : Workspace} (hlook : w.host.look w.directory = .directory)
    (name : String) (state : State) :
    ((gitChecked w (.deleteBranch (.text name) false)).run state).spawns.filterMap
        (Spawn.refusal? w) =
      ((gitChecked w (.deleteBranch (.text name) false)).run state).outcome.cause?.toList.map
        (.notDeleted name) := by
  have hdeletes : Keeps (.every fun spawn => spawn.Deletes name false)
      (gitChecked w (.deleteBranch (.text name) false)) :=
    gitChecked_keeps (git_keeps_every w fun spawn => Spawn.deletes_of_names)
  rw [← gitChecked_failures hlook, List.map_filterMap]
  exact List.filterMap_congr fun spawn hmem =>
    Spawn.refusal?_of_deletes (hdeletes state spawn hmem) w

/-- An attempt to delete a branch writes its warning behind everything else. -/
lemma tryDelete_events (w : Workspace) (name : String) (state : State) :
    ((tryDelete w name).run state).events =
      ((gitChecked w (.deleteBranch (.text name) false)).run state).events ++
        ((gitChecked w (.deleteBranch (.text name) false)).run state).outcome.cause?.toList.map
          fun cause => .logged (.notDeleted name cause) := by
  rw [tryDelete, Action.bind_run, Action.run_attempt]
  cases ((gitChecked w (.deleteBranch (.text name) false)).run state).outcome with
  | answered output => rfl
  | failed cause => rfl
  | aborted fault => exact (List.append_nil _).symm

/-- Where the directory exists, an attempt to delete a branch writes the warning that its spawn
gives rise to.

**Proof sketch.** The command itself leaves only details. The warning is written when the command
fails, and that is when its spawn gives rise to it (`refusals_of_deletion`). -/
lemma tryDelete_keeps_warned {w : Workspace} (hlook : w.host.look w.directory = .directory)
    (name : String) : Keeps (warned w) (tryDelete w name) := by
  intro state
  have hquiet : remarksOf
      ((gitChecked w (.deleteBranch (.text name) false)).run state).events = [] :=
    gitChecked_keeps (git_keeps_quiet w _) state
  have hrefusals := refusals_of_deletion hlook name state
  rw [Run.spawns] at hrefusals
  change remarksOf ((tryDelete w name).run state).events =
    (spawnsOf ((tryDelete w name).run state).events).filterMap (Spawn.refusal? w)
  rw [tryDelete_events, remarksOf_append, hquiet, spawnsOf_append, List.filterMap_append,
    hrefusals]
  cases ((gitChecked w (.deleteBranch (.text name) false)).run state).outcome <;> rfl

/-- Where the directory exists, deleting branches one after the other writes the warnings that the
spawns give rise to. -/
lemma deleteEach_keeps_warned {w : Workspace} (hlook : w.host.look w.directory = .directory)
    (names : List String) (report : CleanupReport) :
    Keeps (warned w) (deleteEach w names report) := by
  induction names generalizing report with
  | nil => exact .pure report
  | cons name rest ih =>
    rw [deleteEach_cons]
    exact (tryDelete_keeps_warned hlook name).bind fun answer => ih _

/-! ## The parts of a call that changes the repository -/

/-- Deletes the local branches that are merged into a target. -/
def sweep (w : Workspace) (target : Value) : Session CleanupReport := do
  let listing ← approach w (.cleanup target false)
  let current ← currentBranchName? w
  Action.orAbort target.requireHashable
  let merged := Listing.mergedNames (target.text?.toList ++ current.toList) listing
  deleteEach w merged { target, merged, dryRun := false }

/-- Prepares an alteration and makes it. -/
def alter (w : Workspace) (order : Order) : Session Alteration := do
  let alteration ← prepare w order
  giveAll w alteration.commands
  return alteration

/-- Ends a call that has changed the repository: unsets what is outdated, notes the change and
answers. -/
def close (mutation : Mutation) (notice : String) (answer : Answer) : Session Answer := do
  invalidate mutation
  log .info notice
  return answer

/-- An order makes an alteration and ends. -/
lemma perform_order_eq_close (w : Workspace) (order : Order) :
    perform w order.call = alter w order >>= fun alteration =>
      close alteration.mutation alteration.notice alteration.answer := by
  rw [perform_order, alter]
  simp only [bind_assoc, pure_bind]
  rfl

/-- The deletion of merged branches deletes them and ends. -/
lemma perform_cleanup_eq_close (w : Workspace) (target : Value) :
    perform w (.cleanup target false) = sweep w target >>= fun report =>
      close .cleanupMergedBranches ("Cleaned up " ++ toString report.deleted.length ++
        " merged branch(es) into " ++ target.asText) (.cleaned report) := by
  rw [perform_of_isRemoval rfl, sweep]
  simp only [bind_assoc]
  rfl

/-- What ends a call notes the change, and starts nothing. -/
lemma close_run (mutation : Mutation) (notice : String) (answer : Answer) (state : State) :
    ((close mutation notice answer).run state).outcome = .answered answer ∧
      remarksOf ((close mutation notice answer).run state).events = [⟨.info, .session, notice⟩] ∧
      ((close mutation notice answer).run state).spawns = [] := by
  cases mutation <;> exact ⟨rfl, rfl, rfl⟩

/-- Making an alteration leaves only details in the log. -/
lemma alter_keeps_quiet (w : Workspace) (order : Order) : Keeps quiet (alter w order) := by
  refine ((keptByLooks_quiet w).prepare fun _ _ => trivial).bind fun alteration => ?_
  exact (giveAll_keeps fun command _ => git_keeps_quiet w command).bind fun _ => .pure alteration

/-- Where the merged branches were listed, the directory exists. -/
lemma look_of_approach {w : Workspace} {target : Value} {dryRun : Bool} {state : State}
    {listing : String}
    (h : ((approach w (.cleanup target dryRun)).run state).outcome = .answered listing) :
    w.host.look w.directory = .directory := by
  obtain ⟨⟨⟩, -, h⟩ := Action.answered_bind_iff.1 h
  obtain ⟨⟨⟩, -, h⟩ := Action.answered_bind_iff.1 h
  have honsite : Keeps (onsite w) (gitChecked w (.listMerged target.asText)) :=
    gitChecked_keeps (git_keeps_onsite w rfl)
  cases gitChecked_run w (.listMerged target.asText) _ with
  | never _ outcome | refused _ _ _ _ outcome =>
    rw [h] at outcome
    cases outcome
  | done spawn _ spawns _ _ _ => exact honsite _ spawn (spawns ▸ List.mem_singleton_self spawn)

/-- Deleting merged branches writes the warnings that the spawns give rise to.

**Proof sketch.** What comes before the branches are deleted only looks. They are deleted when the
merged branches were listed, so that the directory exists (`look_of_approach`). -/
lemma sweep_keeps_warned (w : Workspace) (target : Value) : Keeps (warned w) (sweep w target) := by
  refine ((keptByLooks_warned w).approach _).bind_of_answered fun state listing hlisting => ?_
  have hrest : Keeps (warned w) (currentBranchName? w >>= fun current =>
      Action.orAbort target.requireHashable >>= fun _ =>
        deleteEach w (Listing.mergedNames (target.text?.toList ++ current.toList) listing)
          { target, merged := Listing.mergedNames (target.text?.toList ++ current.toList) listing,
            dryRun := false }) := by
    refine ((keptByLooks_warned w).currentName trivial).bind fun current => ?_
    refine (Keeps.orAbort _).bind fun _ => ?_
    exact deleteEach_keeps_warned (look_of_approach hlisting) _ _
  exact hrest _

/-- Deleting merged branches answers with the target. -/
lemma sweep_target {w : Workspace} {target : Value} {state : State} {report : CleanupReport}
    (h : ((sweep w target).run state).outcome = .answered report) : report.target = target := by
  obtain ⟨listing, -, h⟩ := Action.answered_bind_iff.1 h
  obtain ⟨current, -, h⟩ := Action.answered_bind_iff.1 h
  obtain ⟨⟨⟩, -, h⟩ := Action.answered_bind_iff.1 h
  exact (deleteEach_found h).1

/-! ## What a call leaves in the log -/

/-- What a call leaves in the log apart from details: the warnings that its spawns give rise to, and
then, if it was to change the repository and was answered, the note on its answer. -/
inductive Remarks (w : Workspace) (call : Call) (r : Run State Answer) : Prop where
  | unnoted (unchanged : (call.alters && r.outcome.isAnswered) = false)
      (remarks : remarksOf r.events = call.refusals w r.spawns)
  | noted (answer : Answer) (notice : String) (alters : call.alters = true)
      (outcome : r.outcome = .answered answer) (text : answer.notice? = some notice)
      (remarks : remarksOf r.events = call.refusals w r.spawns ++ [⟨.info, .session, notice⟩])

/-- A call that changes the repository and then ends notes the change if it comes to its end. -/
lemma remarks_of_close {α : Type} {w : Workspace} {call : Call} (halters : call.alters = true)
    {first : Session α} {mutation : α → Mutation} {notice : α → String} {answer : α → Answer}
    (hcall : perform w call = first >>= fun value =>
      close (mutation value) (notice value) (answer value)) {state : State}
    (hfirst : remarksOf (first.run state).events = call.refusals w (first.run state).spawns)
    (htext : ∀ value, (first.run state).outcome = .answered value →
      (answer value).notice? = some (notice value)) :
    Remarks w call ((perform w call).run state) := by
  rw [hcall]
  cases hanswered : (first.run state).outcome.isAnswered with
  | false =>
    obtain ⟨houtcome, -, hevents⟩ := Action.run_bind_of_not_answered hanswered
      fun value => close (mutation value) (notice value) (answer value)
    refine .unnoted (by rw [houtcome, Bool.and_false]) ?_
    rw [Run.spawns, hevents]
    exact hfirst
  | true =>
    obtain ⟨value, hvalue⟩ := Outcome.isAnswered_iff.1 hanswered
    obtain ⟨houtcome, hremarks, hspawns⟩ :=
      close_run (mutation value) (notice value) (answer value) (first.run state).state
    refine .noted (answer value) (notice value) halters ?_ (htext value hvalue) ?_
    · rw [Action.run_bind_of_answered hvalue]
      exact houtcome
    · rw [Action.spawns_bind_of_answered hvalue, hspawns, List.append_nil, ← hfirst, ← hremarks,
        Action.run_bind_of_answered hvalue, remarksOf_append]

/-- What a call leaves in the log apart from details.

**Proof sketch.** A call that is not to change the repository only looks (`KeptByLooks.perform`).
Any other call changes the repository and then ends (`remarks_of_close`): making an alteration
leaves only details, and deleting merged branches writes the warnings that its spawns give rise
to (`sweep_keeps_warned`). -/
theorem perform_remarks (w : Workspace) (call : Call) (state : State) :
    Remarks w call ((perform w call).run state) := by
  -- An order may delete a branch as well, but no order warns.
  have horder : ∀ order : Order, Remarks w order.call ((perform w order.call).run state) := by
    intro order
    refine remarks_of_close (by cases order <;> rfl) (perform_order_eq_close w order) ?_
      fun alteration _ => alteration.notice?_answer
    rw [alter_keeps_quiet w order state]
    cases order <;> rfl
  have hlooks : call.alters = false → Remarks w call ((perform w call).run state) := by
    intro hcall
    have hquiet : Keeps quiet (perform w call) :=
      ((keptByLooks_quiet w).mono fun _ _ => trivial).perform hcall (fun _ _ => rfl) fun _ => rfl
    refine .unnoted (by rw [hcall, Bool.false_and]) ((hquiet state).trans ?_)
    unfold Call.refusals
    split
    · cases hcall
    · rfl
  cases call with
  | createBranch name checkout => exact horder (.create name checkout)
  | checkoutBranch name => exact horder (.checkOut name)
  | deleteBranch name force => exact horder (.delete name force)
  | commit message files => exact horder (.commit message files)
  | push remote branch => exact horder (.push remote branch)
  | cleanup target dryRun =>
    cases dryRun with
    | true => exact hlooks rfl
    | false =>
      refine remarks_of_close rfl (perform_cleanup_eq_close w target)
        (sweep_keeps_warned w target state) fun report hreport => ?_
      rw [Answer.notice?, CleanupReport.notice, sweep_target hreport]
  | _ => exact hlooks rfl

/-- Of two merged branches, one cannot be deleted: there is one warning, and then the note. -/
example :
    let script : Script := .succeeding [(Slot.isRepository.words, "true\n"),
      (Command.lookWords (.text "main"), ""),
      (["for-each-ref", "--format=%(refname:short)", "--merged=main", "refs/heads"],
        "main\nold\nnew\n"),
      (["branch", "-d", "old"], "")]
    remarksOf ((perform .plain (.cleanup (.text "main") false)).run (.initial script)).events =
      [.notDeleted "new"
          (.exited Workspace.plain.directory ["branch", "-d", "new"] ⟨.int 1, "", ""⟩),
        ⟨.info, .session, "Cleaned up 1 merged branch(es) into main"⟩] := by
  decide +kernel

/-! ## The log of a session -/

namespace Remarks

variable {w : Workspace} {call : Call} {r : Run State Answer}

/-- The warnings of a call are those that its spawns give rise to. -/
lemma recordsAt_warning (h : Remarks w call r) :
    recordsAt .warning r.events = call.refusals w r.spawns := by
  have hwarnings : (call.refusals w r.spawns).filter (fun record => record.severity = .warning) =
      call.refusals w r.spawns :=
    List.filter_eq_self.2 fun record hmem => by simp [Call.severity_of_mem_refusals hmem]
  rw [recordsAt_eq .warning (by decide)]
  cases h with
  | unnoted _ remarks => rw [remarks, hwarnings]
  | noted answer notice _ _ _ remarks =>
    rw [remarks, List.filter_append, hwarnings]
    exact List.append_nil _

/-- No warning is a note. -/
lemma filter_info_refusals (w : Workspace) (call : Call) (spawns : List Spawn) :
    (call.refusals w spawns).filter (fun record => record.severity = .info) = [] :=
  List.filter_eq_nil_iff.2 fun record hmem => by simp [Call.severity_of_mem_refusals hmem]

/-- A call that was to change the repository and was answered leaves one note, on its answer. -/
lemma recordsAt_info_of_answered (h : Remarks w call r) (halters : call.alters = true)
    {answer : Answer} (hanswer : r.outcome = .answered answer) :
    ∃ notice, answer.notice? = some notice ∧
      recordsAt .info r.events = [⟨.info, .session, notice⟩] := by
  cases h with
  | unnoted unchanged _ =>
    rw [halters, hanswer] at unchanged
    cases unchanged
  | noted answer' notice _ outcome text remarks =>
    obtain rfl := Outcome.answered.inj (hanswer.symm.trans outcome)
    refine ⟨notice, text, ?_⟩
    rw [recordsAt_eq .info (by decide), remarks, List.filter_append, filter_info_refusals]
    rfl

/-- Any other call leaves no note. -/
lemma recordsAt_info_of_unchanged (h : Remarks w call r)
    (hunchanged : (call.alters && r.outcome.isAnswered) = false) :
    recordsAt .info r.events = [] := by
  cases h with
  | unnoted _ remarks => rw [recordsAt_eq .info (by decide), remarks, filter_info_refusals]
  | noted _ _ alters outcome _ _ =>
    rw [alters, outcome] at hunchanged
    cases hunchanged

end Remarks

/-- The log tells all that happened in a session. A call that was to change the repository and was
answered left exactly one note, on its answer, and any other call left none; warnings are left only
where merged branches are deleted, and there by each attempt that failed; and the log tells of every
start what happened to it. -/
structure Audited (w : Workspace) (milliseconds : Int) (steps : List Step) : Prop where
  noted : ∀ step ∈ steps, step.call.alters = true →
    ∀ answer, step.run.outcome = .answered answer → ∃ notice, answer.notice? = some notice ∧
      recordsAt .info step.run.events = [⟨.info, .session, notice⟩]
  unnoted : ∀ step ∈ steps, (step.call.alters && step.run.outcome.isAnswered) = false →
    recordsAt .info step.run.events = []
  warned : ∀ step ∈ steps,
    recordsAt .warning step.run.events = step.call.refusals w step.run.spawns
  traced : w.runner.Traced milliseconds (steps.flatMap fun step => step.run.events)

/-- Every step of a session leaves in the log what its call does. -/
lemma remarks_of_mem_history {w : Workspace} {calls : List Call} {state : State} {step : Step}
    (h : step ∈ history w calls state) : Remarks w step.call step.run := by
  obtain ⟨before, hrun⟩ := exists_of_mem_history h
  rw [hrun]
  exact perform_remarks w step.call before

/-- **The log is an audit trail.** Whatever git answers and whatever calls are made, the log tells
all that happened.

**Proof sketch.** Apart from details, a call leaves the warnings that its spawns give rise to and
the note on its answer (`perform_remarks`). The details about commands make a trail
(`history_trail`), from which the fate of every start can be read (`Trail.traced`). -/
theorem history_audited (host : Host) (settings : Settings) (calls : List Call) (state : State) :
    Audited (.ofSettings host settings) settings.timeout
      (history (.ofSettings host settings) calls state) where
  noted _ hmem halters _ hanswer :=
    (remarks_of_mem_history hmem).recordsAt_info_of_answered halters hanswer
  unnoted _ hmem hunchanged :=
    (remarks_of_mem_history hmem).recordsAt_info_of_unchanged hunchanged
  warned _ hmem := (remarks_of_mem_history hmem).recordsAt_warning
  traced := (history_trail _ calls state).traced rfl

end Session

end WorkTree
