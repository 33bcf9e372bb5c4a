import WorkTree.Proofs.Repetitions
import WorkTree.Proofs.Session.Audit
import WorkTree.Proofs.Session.CheckedOut

set_option relaxedAutoImplicit false
set_option autoImplicit false

/-!
# The account of deleting merged branches

The report on merged branches is drawn up while they are deleted, one attempt after the other: a
branch that was deleted goes to the end of one list, and a branch that was not gets an entry in a
table, in the place of a former one if there is one. What the report says in the end is a matter of
the attempts alone: the deleted branches are those of the attempts that succeeded, and the table
has the others in the order of their first failure, with the message of their last one. No attempt
is left out, so that every merged branch is found in one of the two, and names that git lists once
in exactly one.

## Main definitions

* `WorkTree.Attempt`, `WorkTree.attemptsOf` — the attempts to delete branches among some spawns.
* `WorkTree.CleanupReport.Accounts` — a report accounts for some attempts.
* `WorkTree.Listing.names` — the names in a listing.
* `WorkTree.Session.Lists` — what git has printed as what is merged into a branch.
* `WorkTree.Session.Accounted` — the answer of the call is the account of its run.

## Main results

* `WorkTree.CleanupReport.Accounts.addDeleted`, `WorkTree.CleanupReport.Accounts.addFailed` — what
  is entered for one more attempt.
* `WorkTree.Session.deleteEach_accounts` — a report that is drawn up accounts for the attempts.
* `WorkTree.CleanupReport.Accounts.length_add` — deleted and failed branches balance.
* `WorkTree.Session.cleanup_accounted` — every answer is the account of its run.
-/

namespace WorkTree

/-! ## Attempts -/

/-- An attempt to delete a branch, not by force: its name, and the spawn of the command. -/
structure Attempt where
  name : String
  spawn : Spawn
  deriving DecidableEq, Repr

/-- The attempt that a spawn is, if it is one. -/
def Spawn.attempt? (spawn : Spawn) : Option Attempt :=
  match spawn.args with
  | ["branch", "-d", name] => some ⟨name, spawn⟩
  | _ => none

/-- The attempts among some spawns, in order. -/
def attemptsOf (spawns : List Spawn) : List Attempt :=
  spawns.filterMap Spawn.attempt?

/-- Whether an attempt succeeded: its command ended with the exit code zero. -/
def Attempt.succeeded (attempt : Attempt) : Bool :=
  attempt.spawn.reply.isSuccess

/-- The message of an attempt that failed: that of the failure its command came to. -/
def Attempt.message? (w : Workspace) (attempt : Attempt) : Option String :=
  (attempt.spawn.failure? w).map Cause.message

/-- The attempts among spawns behind others come behind the attempts among these. -/
lemma attemptsOf_append (spawns spawns' : List Spawn) :
    attemptsOf (spawns ++ spawns') = attemptsOf spawns ++ attemptsOf spawns' :=
  List.filterMap_append

/-- A spawn that deletes a branch, not by force, is an attempt to do so. -/
lemma attemptsOf_singleton {spawn : Spawn} {name : String} (h : spawn.Deletes name false) :
    attemptsOf [spawn] = [⟨name, spawn⟩] := by
  have hargs : spawn.args = ["branch", "-d", name] := h
  have hattempt : spawn.attempt? = some ⟨name, spawn⟩ := by
    simp only [Spawn.attempt?, hargs]
  rw [attemptsOf, List.filterMap_cons_some hattempt, List.filterMap_nil]

/-- Spawns that delete nothing are no attempts. -/
lemma attemptsOf_eq_nil {spawns : List Spawn}
    (h : ∀ spawn ∈ spawns, ∀ name, ¬ spawn.Deletes name false) : attemptsOf spawns = [] := by
  refine List.filterMap_eq_nil_iff.2 fun spawn hmem => ?_
  rw [Spawn.attempt?]
  split
  · next name hargs => exact absurd hargs (h spawn hmem name)
  · rfl

/-! ## Reports -/

namespace CleanupReport

/-- A report accounts for some attempts: it has the branches of those that succeeded, in order; and
those of the others in the order of their first failure, each with the message of the last one. -/
structure Accounts (report : CleanupReport) (w : Workspace) (attempts : List Attempt) : Prop where
  deleted : report.deleted = (attempts.filter Attempt.succeeded).map Attempt.name
  failed : report.failed.map Prod.fst =
    ((attempts.filter fun attempt => !attempt.succeeded).map Attempt.name).eraseDups
  messages : ∀ name, report.failed.lookup name =
    (attempts.filter fun attempt => attempt.name == name && !attempt.succeeded).getLast?.bind
      (Attempt.message? w)

namespace Accounts

variable {w : Workspace} {report : CleanupReport} {attempts : List Attempt} {attempt : Attempt}

/-- A report without entries accounts for no attempts. -/
lemma nil (hdeleted : report.deleted = []) (hfailed : report.failed = []) :
    report.Accounts w [] := by
  constructor
  · rw [hdeleted]
    rfl
  · rw [hfailed]
    rfl
  · intro name
    rw [hfailed]
    rfl

/-- A report that accounts for no attempts has no entries. -/
lemma eq_nil (h : report.Accounts w []) : report.deleted = [] ∧ report.failed = [] :=
  ⟨h.deleted, List.map_eq_nil_iff.1 h.failed⟩

/-- A branch that was deleted is entered among the deleted ones. -/
lemma addDeleted (h : report.Accounts w attempts) (hattempt : attempt.succeeded = true) :
    (report.addDeleted attempt.name).Accounts w (attempts ++ [attempt]) := by
  constructor
  · simp [CleanupReport.addDeleted, h.deleted, hattempt]
  · simpa [CleanupReport.addDeleted, hattempt] using h.failed
  · simpa [CleanupReport.addDeleted, hattempt] using h.messages

/-- A branch that was not deleted is entered in the table with the message of this attempt. -/
lemma addFailed (h : report.Accounts w attempts) (hattempt : attempt.succeeded = false)
    {message : String} (hmessage : attempt.message? w = some message) :
    (report.addFailed attempt.name message).Accounts w (attempts ++ [attempt]) := by
  constructor
  · simpa [CleanupReport.addFailed, hattempt] using h.deleted
  · have hfailures : ((attempts ++ [attempt]).filter fun attempt => !attempt.succeeded).map
        Attempt.name = (attempts.filter fun attempt => !attempt.succeeded).map Attempt.name ++
          [attempt.name] := by
      simp [hattempt]
    rw [CleanupReport.addFailed, Entries.keys_put, h.failed, hfailures, eraseDups_concat]
    simp only [List.mem_eraseDups]
  · intro name
    rw [CleanupReport.addFailed, Entries.lookup_put, h.messages]
    by_cases hname : name = attempt.name
    · simp [hname, hattempt, hmessage]
    · have hother : (attempt.name == name) = false := beq_false_of_ne (Ne.symm hname)
      simp [hname, hother]

/-- Every branch that an attempt was made on is in the report. -/
lemma complete (h : report.Accounts w attempts) {name : String}
    (hmem : name ∈ attempts.map Attempt.name) :
    name ∈ report.deleted ∨ name ∈ report.failed.map Prod.fst := by
  obtain ⟨attempt, hattempt, rfl⟩ := List.mem_map.1 hmem
  rw [h.deleted, h.failed, List.mem_eraseDups]
  cases hsucceeded : attempt.succeeded with
  | true => exact .inl (List.mem_map_of_mem (List.mem_filter.2 ⟨hattempt, hsucceeded⟩))
  | false =>
    refine .inr (List.mem_map_of_mem (List.mem_filter.2 ⟨hattempt, ?_⟩))
    rw [hsucceeded]
    rfl

/-- When there was one attempt for each branch, no branch has both been deleted and failed. -/
lemma disjoint (h : report.Accounts w attempts) (hnodup : (attempts.map Attempt.name).Nodup) :
    report.deleted.Disjoint (report.failed.map Prod.fst) := by
  rw [h.deleted, h.failed]
  intro name hdeleted hfailed
  obtain ⟨attempt, hattempt, rfl⟩ := List.mem_map.1 hdeleted
  obtain ⟨attempt', hattempt', hname⟩ := List.mem_map.1 (List.mem_eraseDups.1 hfailed)
  obtain ⟨hmem, hsucceeded⟩ := List.mem_filter.1 hattempt
  obtain ⟨hmem', hfails⟩ := List.mem_filter.1 hattempt'
  obtain rfl := List.inj_on_of_nodup_map hnodup hmem' hmem hname
  rw [hsucceeded] at hfails
  cases hfails

/-- When there was one attempt for each branch, deleted and failed branches balance. -/
lemma length_add (h : report.Accounts w attempts) (hnodup : (attempts.map Attempt.name).Nodup) :
    report.deleted.length + report.failed.length = attempts.length := by
  have hfailures : ((attempts.filter fun attempt => !attempt.succeeded).map Attempt.name).Nodup :=
    hnodup.sublist (List.filter_sublist.map _)
  have hfailed := congrArg List.length h.failed
  rw [eraseDups_of_nodup hfailures, List.length_map, List.length_map] at hfailed
  rw [h.deleted, hfailed, List.length_map]
  exact (List.length_eq_length_filter_add Attempt.succeeded).symm

end Accounts

end CleanupReport

/-! ## Names in a listing -/

/-- The names in a listing, one per line, in its order: blanks around a name are dropped, and so are
lines without a name. -/
def Listing.names (listing : String) : List String :=
  ((Text.lines listing.toList).map fun line => String.ofList (Text.trim line)).filter (· ≠ "")

/-- The names of merged branches are those in the listing other than the target and the current
branch. -/
lemma Listing.mergedNames_eq (target : Value) (current : Option String) (listing : String) :
    mergedNames (target.text?.toList ++ current.toList) listing =
      (names listing).filter fun name => .text name ≠ target ∧ current ≠ some name := by
  rw [mergedNames, names, List.filter_filter]
  refine List.filter_congr fun name _ => ?_
  have htarget : name ∈ target.text?.toList ↔ .text name = target := by
    cases target <;> simp [Value.text?, eq_comm]
  have hcurrent : name ∈ current.toList ↔ current = some name := Option.mem_toList
  rw [Bool.eq_iff_iff]
  simp only [Bool.and_eq_true, Bool.not_eq_true', List.contains_eq_mem, decide_eq_true_eq,
    decide_eq_false_iff_not, List.mem_append, htarget, hcurrent, not_or]
  tauto

namespace Session

/-! ## Deleting branches one after the other -/

/-- Where the directory exists, a command that has to succeed is started, unless a fault is the end
of it: its spawn tells whether it succeeded, or else the cause. -/
lemma gitChecked_attempted {w : Workspace} (hlook : w.host.look w.directory = .directory)
    {command : Command} {state : State} {answer : Except Cause String}
    (h : ((Action.attempt (gitChecked w command)).run state).outcome = .answered answer) :
    ∃ spawn, ((gitChecked w command).run state).spawns = [spawn] ∧ command.Names spawn.args ∧
      ((spawn.reply.isSuccess = true ∧ ∃ output, answer = .ok output) ∨
        (spawn.reply.isSuccess = false ∧
          ∃ cause, answer = .error cause ∧ spawn.failure? w = some cause)) := by
  have hfailures := gitChecked_failures hlook command state
  have hrun := gitChecked_run w command state
  rw [Action.run_attempt] at h
  cases houtcome : ((gitChecked w command).run state).outcome with
  | answered output =>
    rw [houtcome] at h
    obtain rfl := Outcome.answered.inj h
    cases hrun with
    | never _ outcome | refused _ _ _ _ outcome =>
      rw [houtcome] at outcome
      cases outcome
    | done spawn completion spawns args reply _ =>
      refine ⟨spawn, spawns, args, .inl ⟨?_, output, rfl⟩⟩
      rw [Reply.isSuccess, reply, Option.isSome_some]
  | failed cause =>
    rw [houtcome] at h hfailures
    obtain rfl := Outcome.answered.inj h
    cases hrun with
    | never spawns _ =>
      rw [spawns] at hfailures
      cases hfailures
    | refused spawn spawns args reply _ =>
      refine ⟨spawn, spawns, args, .inr ⟨reply, cause, rfl, ?_⟩⟩
      rw [spawns] at hfailures
      cases hfailure : spawn.failure? w with
      | none => simp [hfailure, Outcome.cause?] at hfailures
      | some cause' =>
        obtain rfl : cause' = cause := by simpa [hfailure, Outcome.cause?] using hfailures
        rfl
    | done _ _ _ _ _ outcome => cases houtcome.symm.trans outcome
  | aborted fault =>
    rw [houtcome] at h
    cases h

/-- Where the directory exists, an attempt to delete a branch that comes to an end is one attempt,
and tells whether it succeeded, or else the message. -/
lemma tryDelete_answered {w : Workspace} (hlook : w.host.look w.directory = .directory)
    {name : String} {state : State} {answer : Except Cause String}
    (h : ((tryDelete w name).run state).outcome = .answered answer) :
    ∃ attempt : Attempt, attempt.name = name ∧
      attemptsOf ((tryDelete w name).run state).spawns = [attempt] ∧
        ((attempt.succeeded = true ∧ ∃ output, answer = .ok output) ∨
          (attempt.succeeded = false ∧
            ∃ cause, answer = .error cause ∧ attempt.message? w = some cause.message)) := by
  have hspawns : ((tryDelete w name).run state).spawns =
      ((gitChecked w (.deleteBranch (.text name) false)).run state).spawns := by
    rw [Run.spawns, tryDelete_events, spawnsOf_append]
    cases ((gitChecked w (.deleteBranch (.text name) false)).run state).outcome <;>
      exact List.append_nil _
  obtain ⟨answer', hattempt, hrest⟩ := Action.answered_bind_iff.1 h
  obtain ⟨⟨⟩, -, hanswer⟩ := Action.answered_bind_iff.1 hrest
  obtain rfl := Outcome.answered.inj hanswer
  obtain ⟨spawn, hspawn, hnames, hcases⟩ := gitChecked_attempted hlook hattempt
  refine ⟨⟨name, spawn⟩, rfl, ?_, ?_⟩
  · rw [hspawns, hspawn, attemptsOf_singleton (Spawn.deletes_of_names hnames)]
  · rcases hcases with hsucceeded | ⟨hfailed, cause, rfl, hcause⟩
    · exact .inl hsucceeded
    · refine .inr ⟨hfailed, cause, rfl, ?_⟩
      rw [Attempt.message?, hcause, Option.map_some]

/-- Where the directory exists, the report that is drawn up while branches are deleted accounts for
the former attempts and one for each of these branches, in order.

**Proof sketch.** By induction on the branches, for any report that accounts for the attempts so
far. -/
lemma deleteEach_accounts {w : Workspace} (hlook : w.host.look w.directory = .directory)
    {names : List String} {earlier : List Attempt} {report report' : CleanupReport} {state : State}
    (hreport : report.Accounts w earlier)
    (h : ((deleteEach w names report).run state).outcome = .answered report') :
    (attemptsOf ((deleteEach w names report).run state).spawns).map Attempt.name = names ∧
      report'.Accounts w
        (earlier ++ attemptsOf ((deleteEach w names report).run state).spawns) := by
  induction names generalizing earlier report state with
  | nil =>
    obtain rfl := Outcome.answered.inj h
    refine ⟨rfl, ?_⟩
    change report.Accounts w (earlier ++ [])
    rw [List.append_nil]
    exact hreport
  | cons name rest ih =>
    rw [deleteEach_cons] at h ⊢
    obtain ⟨answer, hanswer, hrest⟩ := Action.answered_bind_iff.1 h
    obtain ⟨attempt, rfl, hattempt, hcases⟩ := tryDelete_answered hlook hanswer
    have hentered : (enter report attempt.name answer).Accounts w (earlier ++ [attempt]) := by
      rcases hcases with ⟨hsucceeded, output, rfl⟩ | ⟨hfailed, cause, rfl, hmessage⟩
      · exact hreport.addDeleted hsucceeded
      · exact hreport.addFailed hfailed hmessage
    obtain ⟨hnames, haccounts⟩ := ih hentered hrest
    rw [Action.spawns_bind_of_answered hanswer, attemptsOf_append, hattempt]
    refine ⟨?_, ?_⟩
    · rw [List.map_append, hnames]
      rfl
    · rw [← List.append_assoc]
      exact haccounts

/-! ## Answers -/

/-- Git has listed what is merged into a branch, and that is what it printed. -/
def Lists (target : Value) (spawns : List Spawn) (output : String) : Prop :=
  ∃ spawn ∈ spawns, ∃ completion,
    spawn.args = ["for-each-ref", "--format=%(refname:short)", "--merged=" ++ target.asText,
      "refs/heads"] ∧
    spawn.reply.success? = some completion ∧ completion.out = output

/-- The answer to a call that deletes merged branches is the account of its run. The merged branches
are those that git has listed, in order and without blanks around their names, but for the target
and the current branch as far as it is known. A call that only reports makes no attempt to delete
anything; any other makes one for each merged branch, in order. The deleted and the failed branches
are those of the attempts; each merged branch is one of them, and where no name is listed twice they
share none and balance. -/
structure Accounted (w : Workspace) (target : Value) (dryRun : Bool) (state : State)
    (r : Run State Answer) (report : CleanupReport) : Prop where
  merged : ∃ output current, (∀ text, output = text ↔ Lists target r.spawns text) ∧
    (∀ name, current = some name ↔ Tells state r.spawns name) ∧
      report.merged = (Listing.names output).filter fun name =>
        .text name ≠ target ∧ current ≠ some name
  attempted : (attemptsOf r.spawns).map Attempt.name = if dryRun then [] else report.merged
  accounts : report.Accounts w (attemptsOf r.spawns)
  untouched : dryRun = true → report.deleted = [] ∧ report.failed = []
  complete : dryRun = false →
    ∀ name ∈ report.merged, name ∈ report.deleted ∨ name ∈ report.failed.map Prod.fst
  balanced : dryRun = false → report.merged.Nodup →
    report.deleted.Disjoint (report.failed.map Prod.fst) ∧
      report.deleted.length + report.failed.length = report.merged.length

/-- What the deletion of merged branches goes by is what git has printed.

**Proof sketch.** The listing is the last command before the question for the current branch, and
its output is passed on. Nothing that comes behind it lists branches
(`mem_approach_of_listing`). -/
lemma listed_iff_lists {w : Workspace} {target : Value} {dryRun : Bool} {state : State}
    {output : String} :
    ((approach w (.cleanup target dryRun)).run state).outcome = .answered output ↔
      Lists target ((perform w (.cleanup target dryRun)).run state).spawns output := by
  constructor
  · intro h
    obtain ⟨⟨⟩, hgate, h⟩ := Action.answered_bind_iff.1 h
    obtain ⟨⟨⟩, hrequired, h⟩ := Action.answered_bind_iff.1 h
    cases gitChecked_run w (.listMerged target.asText) _ with
    | never _ outcome | refused _ _ _ _ outcome =>
      rw [h] at outcome
      cases outcome
    | done spawn completion spawns args reply outcome =>
      refine ⟨spawn, ?_, completion, (Command.names_iff rfl).1 args, reply, ?_⟩
      · rw [perform_cleanup]
        refine Action.mem_spawns_bind_iff.2 (.inr ⟨(), hgate, ?_⟩)
        refine Action.mem_spawns_bind_iff.2 (.inr ⟨(), hrequired, ?_⟩)
        exact Action.mem_spawns_bind_iff.2 (.inl (spawns ▸ List.mem_singleton_self spawn))
      · exact Outcome.answered.inj (outcome.symm.trans h)
  · rintro ⟨spawn, hmem, completion, hargs, hreply, rfl⟩
    have hnames : (Command.listMerged target.asText).Names spawn.args :=
      (Command.names_iff rfl).2 hargs
    exact approach_of_listing (mem_approach_of_listing hmem hnames) hnames hreply

/-- After it has asked for the current branch, a call that is to delete the merged branches deletes
them one after the other, and ends. -/
lemma remove_cleanup_eq_close (w : Workspace) (output : String) (current : Option String)
    (target : Value) :
    let merged := Listing.mergedNames (target.text?.toList ++ current.toList) output
    remove w output current (.cleanup target false) =
      Action.orAbort target.requireHashable >>= fun _ =>
        deleteEach w merged { target, merged, dryRun := false } >>= fun report =>
          close .cleanupMergedBranches ("Cleaned up " ++ toString report.deleted.length ++
            " merged branch(es) into " ++ target.asText) (.cleaned report) :=
  rfl

/-- What a call does to merged branches after it has asked for the current one is accounted for by
its answer.

**Proof sketch.** A call that only reports answers at once. Any other draws up the report while it
deletes the branches (`deleteEach_accounts`), and starts nothing after that. -/
lemma remove_cleanup_accounts {w : Workspace} (hlook : w.host.look w.directory = .directory)
    {target : Value} {dryRun : Bool} {output : String} {current : Option String} {state : State}
    {answer : Answer}
    (h : ((remove w output current (.cleanup target dryRun)).run state).outcome =
      .answered answer) :
    let attempts :=
      attemptsOf ((remove w output current (.cleanup target dryRun)).run state).spawns
    ∃ report, answer = .cleaned report ∧
      report.merged = Listing.mergedNames (target.text?.toList ++ current.toList) output ∧
        attempts.map Attempt.name = (if dryRun then [] else report.merged) ∧
          report.Accounts w attempts := by
  obtain ⟨⟨⟩, hhashable, hrest⟩ := Action.answered_bind_iff.1 h
  have hstill : (Action.orAbort target.requireHashable : Session Unit).run state =
      { outcome := .answered (), state } := by
    rw [Action.answered_orAbort_iff] at hhashable
    rw [hhashable]
    rfl
  rw [hstill] at hrest
  cases dryRun with
  | true =>
    rw [remove, Action.run_bind_of_still hstill]
    exact ⟨_, (Outcome.answered.inj hrest).symm, rfl, rfl, .nil rfl rfl⟩
  | false =>
    rw [remove_cleanup_eq_close, Action.run_bind_of_still hstill]
    obtain ⟨report, hreport, hclosed⟩ := Action.answered_bind_iff.1 hrest
    obtain ⟨hnames, haccounts⟩ := deleteEach_accounts hlook (.nil rfl rfl) hreport
    have hmerged := (deleteEach_found hreport).2
    rw [Action.spawns_bind_of_answered hreport, (close_run _ _ _ _).2.2, List.append_nil]
    refine ⟨report, ?_, hmerged, hnames.trans hmerged.symm, haccounts⟩
    exact Outcome.answered.inj (hclosed.symm.trans (close_run _ _ _ _).1)

/-- A removal attempts to delete branches only after it has found out the current one.

**Proof sketch.** Neither what it starts before that (`approach_aside`) nor the question for the
current branch deletes anything. -/
lemma attemptsOf_removal {w : Workspace} {call : Call} (hcall : call.isRemoval = true)
    {state : State} {output : String} {current : Option String}
    (houtput : ((approach w call).run state).outcome = .answered output)
    (hcurrent : ((currentBranchName? w).run ((approach w call).run state).state).outcome =
      .answered current) :
    attemptsOf ((perform w call).run state).spawns =
      attemptsOf ((remove w output current call).run ((currentBranchName? w).run
        ((approach w call).run state).state).state).spawns := by
  have happroach : attemptsOf ((approach w call).run state).spawns = [] :=
    attemptsOf_eq_nil fun spawn hmem name => ((approach_aside w call state).1 spawn hmem).2 name _
  have hquestion : attemptsOf ((currentBranchName? w).run
      ((approach w call).run state).state).spawns = [] := by
    have hlearns := currentBranchName?_run (isInside_of_approach houtput) w
    exact attemptsOf_eq_nil fun spawn hmem name hdeletes =>
      hdeletes.args_ne .branch (hlearns.args spawn hmem)
  rw [perform_of_isRemoval hcall, Action.spawns_bind_of_answered houtput,
    Action.spawns_bind_of_answered hcurrent, attemptsOf_append, attemptsOf_append, happroach,
    hquestion]
  rfl

/-- **Accounting.** In every state, the answer to a call that deletes merged branches, or that only
reports them, is the account of its run.

**Proof sketch.** The branches are read from what git has printed (`listed_iff_lists`), without the
target and the current branch (`learned_iff_tells`). All attempts are made behind that
(`attemptsOf_removal`), and they are accounted for (`remove_cleanup_accounts`). That no branch is
left out and that the two sorts of branches balance holds of every report that accounts for one
attempt for each branch (`Accounts.complete`, `Accounts.disjoint`, `Accounts.length_add`). -/
theorem cleanup_accounted {w : Workspace} {target : Value} {dryRun : Bool} {state : State}
    {answer : Answer}
    (h : ((perform w (.cleanup target dryRun)).run state).outcome = .answered answer) :
    ∃ report, answer = .cleaned report ∧
      Accounted w target dryRun state ((perform w (.cleanup target dryRun)).run state) report := by
  have hremoval : (Call.cleanup target dryRun).isRemoval = true := rfl
  have hperform := perform_of_isRemoval hremoval w
  obtain ⟨output, houtput, hrest⟩ := Action.answered_bind_iff.1 (hperform ▸ h)
  obtain ⟨current, hcurrent, hanswer⟩ := Action.answered_bind_iff.1 hrest
  obtain ⟨report, rfl, hmerged, hattempted, haccounts⟩ :=
    remove_cleanup_accounts (look_of_approach houtput) hanswer
  rw [← attemptsOf_removal hremoval houtput hcurrent] at hattempted haccounts
  have hnames (hdry : dryRun = false) :
      (attemptsOf ((perform w (.cleanup target dryRun)).run state).spawns).map Attempt.name =
        report.merged := by
    rw [hattempted, hdry]
    rfl
  refine ⟨report, rfl, ?_, hattempted, haccounts, ?_, ?_, ?_⟩
  · refine ⟨output, current, fun text => ?_, fun name => ?_, ?_⟩
    · rw [← listed_iff_lists, houtput, Outcome.answered.injEq]
    · rw [← learned_iff_tells hremoval houtput, hcurrent, Outcome.answered.injEq]
    · rw [hmerged, Listing.mergedNames_eq]
  · rintro rfl
    rw [List.map_eq_nil_iff.1 hattempted] at haccounts
    exact haccounts.eq_nil
  · intro hdry name hname
    exact haccounts.complete (hnames hdry ▸ hname)
  · intro hdry hnodup
    rw [← hnames hdry] at hnodup
    refine ⟨haccounts.disjoint hnodup, ?_⟩
    rw [haccounts.length_add hnodup, ← hnames hdry, List.length_map]

/-- A branch that is listed twice is deleted and then not found any more, and in between an attempt
to delete another one runs out of time. -/
theorem cleanup_accounted_repeated :
    let script := ((Script.succeeding [(Slot.isRepository.words, "true\n"),
      (Command.lookWords (.text "main"), ""), (Question.branch.words, "main\n"),
      (["for-each-ref", "--format=%(refname:short)", "--merged=main", "refs/heads"],
        "main\n old\n\nnew\nold\n")]).set ["branch", "-d", "new"] [.timedOut]).set
      ["branch", "-d", "old"] [.completed (.int 0) .absent .absent,
        .completed (.int 1) .absent (.text "no branch old\n")]
    let state := State.initial script
    let r := (perform .plain (.cleanup (.text "main") false)).run state
    let report : CleanupReport :=
      { target := .text "main", merged := ["old", "new", "old"], deleted := ["old"],
        dryRun := false,
        failed := [("new", "git branch -d new timed out after 1000 ms"), ("old", "no branch old")] }
    r.outcome = .answered (.cleaned report) ∧
      Accounted .plain (.text "main") false state r report := by
  intro script state r report
  have hreport : r.outcome = .answered (.cleaned report) := by decide +kernel
  obtain ⟨report', hanswer, haccounted⟩ := cleanup_accounted hreport
  obtain rfl := Answer.cleaned.inj hanswer
  exact ⟨hreport, haccounted⟩

end Session

end WorkTree
