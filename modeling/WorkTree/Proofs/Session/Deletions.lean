import WorkTree.Proofs.Session.CurrentBranch

set_option relaxedAutoImplicit false
set_option autoImplicit false

/-!
# What calls may delete

Two calls delete branches: one deletes a branch that the caller names, the other the branches that
are merged into a target. Both find out the current branch on the way and leave it alone, as far as
it is known. All that a call does before it asks for the current branch only looks, and all that it
does afterwards does not ask again.

## Main definitions

* `WorkTree.Spawn.Deletes`, `WorkTree.Call.MayDelete` — the spawns that delete a branch, and the
  branches that a call may delete.
* `WorkTree.Session.approach`, `WorkTree.Session.remove` — the parts of a deleting call before and
  after it asks for the current branch.
* `WorkTree.Session.Restrained` — a run starts nothing beyond what its call is for.

## Main results

* `WorkTree.Session.perform_of_isRemoval` — a deleting call is made of these parts.
* `WorkTree.Session.removal_run` — how a deleting call runs.
* `WorkTree.Session.perform_restrained` — every call is restrained.
-/

namespace WorkTree

/-! ## Deletions -/

/-- A spawn that deletes a branch, by force or not. -/
def Spawn.Deletes (spawn : Spawn) (name : String) (force : Bool) : Prop :=
  spawn.args = ["branch", if force then "-D" else "-d", name]

/-- A command whose arguments delete a branch is the order to delete it. -/
lemma Spawn.Deletes.command_eq {spawn : Spawn} {name : String} {force : Bool} {command : Command}
    (h : spawn.Deletes name force) (hnames : command.Names spawn.args) :
    command = .deleteBranch (.text name) force := by
  have hverb := hnames.head?
  rw [h] at hverb
  rw [Command.Names, h] at hnames
  cases command with
  | deleteBranch name' force' =>
    simp only [Command.args, Command.words, List.map_cons, List.map_nil, List.cons_append,
      List.nil_append, List.cons.injEq, Value.text.injEq, and_true] at hnames
    obtain ⟨-, hflag, rfl⟩ := hnames
    cases force <;> cases force' <;> simp_all
  | createBranch name' => simp [Command.args, Command.words] at hnames
  | _ => simp [Command.verb] at hverb

/-- The arguments of the order to delete a branch delete it. -/
lemma Spawn.deletes_of_names {spawn : Spawn} {name : String} {force : Bool}
    (h : (Command.deleteBranch (.text name) force).Names spawn.args) :
    spawn.Deletes name force :=
  (Command.names_iff rfl).1 h

/-- A spawn deletes one branch. -/
lemma Spawn.Deletes.name_eq {spawn : Spawn} {name name' : String} {force force' : Bool}
    (h : spawn.Deletes name force) (h' : spawn.Deletes name' force') : name = name' := by
  have hargs := h.symm.trans h'
  simp only [List.cons.injEq] at hargs
  exact hargs.2.2.1

/-- A spawn that deletes a branch does not ask for the current one. -/
lemma Spawn.Deletes.args_ne {spawn : Spawn} {name : String} {force : Bool}
    (h : spawn.Deletes name force) (question : Question) : spawn.args ≠ question.words := by
  rw [h]
  cases question <;> simp [Question.words, Command.currentBranchWords]

/-- A command that only asks deletes nothing. -/
lemma Spawn.not_deletes_of_isReadOnly {spawn : Spawn} {command : Command}
    (hnames : command.Names spawn.args) (h : command.isReadOnly = true) (name : String)
    (force : Bool) : ¬ spawn.Deletes name force := by
  intro hdeletes
  rw [hdeletes.command_eq hnames] at h
  cases h

/-- A spawn neither asks for the current branch nor deletes one. -/
def Spawn.IsAside (spawn : Spawn) : Prop :=
  spawn.args ≠ Question.branch.words ∧ ∀ name force, ¬ spawn.Deletes name force

namespace Call

/-- The branches that a call may delete, and whether by force: the one that the caller names, as the
caller says; or branches other than the target, and then not by force. -/
inductive MayDelete : Call → String → Bool → Prop where
  | ordered (name : String) (force : Flag) :
      MayDelete (.deleteBranch (.text name) force) name force.holds
  | merged {target : Value} {name : String} (other : target ≠ .text name) :
      MayDelete (.cleanup target false) name false

/-- The calls that delete branches, or report those that they would delete. -/
def isRemoval : Call → Bool
  | .deleteBranch _ _ | .cleanup _ _ => true
  | _ => false

/-- The calls that only ask git. -/
def onlyAsks : Call → Bool
  | .checkInstallation | .isRepository | .version | .status | .currentBranch | .remotes | .health
  | .overview | .listBranches | .cleanup _ true => true
  | _ => false

/-- The calls that have nothing to do with git. -/
def isSilent : Call → Bool
  | .version | .validateBranchName _ _ | .clearCache => true
  | _ => false

/-- A call that only asks gives no command to change something. -/
lemma not_gives_of_onlyAsks {call : Call} {command : Command} (h : call.onlyAsks = true) :
    ¬ call.Gives command := by
  intro hgives
  cases hgives with
  | cleanup target name => cases h
  | @order order _ _ _ _ _ => cases order <;> cases h

/-- A call gives the command to delete a branch only if it is a removal. -/
lemma isRemoval_of_gives {call : Call} {name : Value} {force : Bool}
    (h : call.Gives (.deleteBranch name force)) : call.isRemoval = true := by
  cases h with
  | cleanup target name => rfl
  | @order order _ alteration _ settled hmem =>
    cases order with
    | delete name force => rfl
    | create name checkout =>
      obtain rfl := Option.some.inj settled
      have hcommand := List.mem_singleton.1 hmem
      split at hcommand <;> cases hcommand
    | checkOut name =>
      obtain rfl := Option.some.inj settled
      cases List.mem_singleton.1 hmem
    | commit message files =>
      obtain ⟨⟨message, scope⟩, rfl⟩ := Order.commit_of_alteration? settled
      cases scope <;> simp [Alteration.commands, CommitScope.stageCommand,
        CommitScope.commitCommand] at hmem
    | push remote branch =>
      obtain ⟨named, rfl⟩ := Order.push_of_alteration? settled
      cases List.mem_singleton.1 hmem

end Call

/-- A spawn does not ask for the current branch, and what it deletes is a branch that the call may
delete and not the current one. -/
def Spawn.Spares (call : Call) (current : Option String) (spawn : Spawn) : Prop :=
  spawn.args ≠ Question.branch.words ∧
    ∀ name force, spawn.Deletes name force → call.MayDelete name force ∧ current ≠ some name

/-- A spawn that deletes nothing spares every branch. -/
lemma Spawn.IsAside.spares {spawn : Spawn} (h : spawn.IsAside) (call : Call)
    (current : Option String) : spawn.Spares call current :=
  ⟨h.1, fun name force hdeletes => absurd hdeletes (h.2 name force)⟩

/-- An order to delete a branch that the call may delete and that is not the current one spares the
current one. -/
lemma Spawn.spares_of_names {spawn : Spawn} {call : Call} {current : Option String} {name : Value}
    {force : Bool} (hnames : (Command.deleteBranch name force).Names spawn.args)
    (h : ∀ text, name = .text text → call.MayDelete text force ∧ current ≠ some text) :
    spawn.Spares call current := by
  constructor
  · intro hargs
    rw [hargs] at hnames
    cases Slot.command_of_names_question hnames
  · intro text force' hdeletes
    obtain ⟨rfl, rfl⟩ := Command.deleteBranch.inj (hdeletes.command_eq hnames)
    exact h text rfl

namespace Session

open WorkTree.Action (Keeps FailsWith)

/-! ## The parts of a removal -/

/-- What a removal does before it asks for the current branch: it passes the gate, and where the
branches are to be found first, it lists those that are merged into the target. -/
def approach (w : Workspace) : Call → Session String
  | .cleanup target _ => do
    requireRepository w
    requireBranch w target
    gitChecked w (.listMerged target.asText)
  | _ => do
    requireRepository w
    return ""

/-- What a removal does after it has asked for the current branch. -/
def remove (w : Workspace) (listing : String) (current : Option String) : Call → Session Answer
  | .deleteBranch name force => do
    Action.ensure (Value.ofText? current != name) (.branchCheckedOut name)
    requireBranch w name
    let _ ← gitChecked w (.deleteBranch name force.holds)
    invalidate .deleteBranch
    log .info ("Deleted branch " ++ name.asText ++ if force.holds then " (forced)" else "")
    return .deleted { name, force }
  | .cleanup target dryRun => do
    Action.orAbort target.requireHashable
    let merged := Listing.mergedNames (target.text?.toList ++ current.toList) listing
    let found : CleanupReport := { target, merged, dryRun }
    if dryRun then
      return .cleaned found
    else
      let report ← deleteEach w merged found
      invalidate .cleanupMergedBranches
      log .info ("Cleaned up " ++ toString report.deleted.length ++ " merged branch(es) into " ++
        target.asText)
      return .cleaned report
  | _ => return .nothing

/-- A removal is its two parts, with the question for the current branch between them. -/
lemma perform_of_isRemoval {call : Call} (h : call.isRemoval = true) (w : Workspace) :
    perform w call = approach w call >>= fun listing =>
      currentBranchName? w >>= fun current => remove w listing current call := by
  cases call with
  | deleteBranch name force =>
    simp only [perform, deleteBranch, approach, remove, map_bind, map_pure, bind_assoc, pure_bind]
  | cleanup target dryRun =>
    cases dryRun <;>
      simp only [perform, cleanup, approach, remove, map_bind, map_pure, bind_assoc,
        Bool.false_eq_true, if_true, if_false]
  | _ => cases h

/-- To delete merged branches, a call passes the gate, looks for the target, lists what is merged
into it and finds out the current branch first. -/
lemma perform_cleanup (w : Workspace) (target : Value) (dryRun : Bool) :
    perform w (.cleanup target dryRun) = requireRepository w >>= fun _ =>
      requireBranch w target >>= fun _ =>
      gitChecked w (.listMerged target.asText) >>= fun listing =>
      currentBranchName? w >>= fun current =>
      remove w listing current (.cleanup target dryRun) := by
  rw [perform_of_isRemoval rfl, approach]
  simp only [bind_assoc]

/-- The spawns of commands that only ask, but not for the current branch, do not matter here. -/
lemma isAside_of_isReadOnly {command : Command} {spawn : Spawn} (h : command.isReadOnly = true)
    (hasked : ∀ question : Question, question.command = command → question ≠ .branch)
    (hnames : command.Names spawn.args) : spawn.IsAside := by
  constructor
  · intro hargs
    rw [hargs] at hnames
    exact hasked .branch (Slot.command_of_names_question hnames).symm rfl
  · exact Spawn.not_deletes_of_isReadOnly hnames h

/-- Before a removal asks for the current branch, it only looks. -/
lemma KeptByLooks.approach {R : TraceRelation State} {w : Workspace}
    {asked : Question → Prop} (h : KeptByLooks R w asked) (call : Call) :
    Keeps R (approach w call) := by
  cases call with
  | cleanup target dryRun =>
    refine h.gate.bind fun _ => ?_
    exact (h.require target).bind fun _ => gitChecked_keeps (h.listMerged _)
  | _ => exact h.gate.bind fun _ => .pure _

/-- Looking for a branch leaves the cache as it is. -/
lemma requireBranch_keeps_untouched (w : Workspace) (name : Value) (slot : Slot) :
    Keeps (untouched slot) (requireBranch w name) := by
  exact requireBranch_keeps fun _ => rfl

/-- A removal asks for the current branch in a repository.

**Proof sketch.** It has passed the gate, and nothing of what it does between writes to the
cache. -/
lemma isInside_of_approach {w : Workspace} {call : Call} {state : State} {listing : String}
    (h : ((approach w call).run state).outcome = .answered listing) :
    ((approach w call).run state).state.IsInside := by
  cases call with
  | cleanup target dryRun =>
    obtain ⟨⟨⟩, hgate, h⟩ := Action.answered_bind_iff.1 h
    obtain ⟨⟨⟩, hrequire, h⟩ := Action.answered_bind_iff.1 h
    obtain ⟨value, hslot, hyes⟩ := isInside_of_requireRepository hgate
    rw [approach, Action.state_bind_of_answered hgate, Action.state_bind_of_answered hrequire]
    refine ⟨value, ?_, hyes⟩
    rw [gitChecked_cache]
    exact (requireBranch_keeps_untouched w target .isRepository _).trans hslot
  | _ =>
    obtain ⟨⟨⟩, hgate, -⟩ := Action.answered_bind_iff.1 h
    rw [approach, Action.state_bind_of_answered hgate]
    · exact isInside_of_requireRepository hgate
    · rintro _ _ ⟨⟩

/-- The names of merged branches are none of those that are kept out. -/
lemma not_mem_of_mem_mergedNames {keptOut : List String} {listing name : String}
    (h : name ∈ Listing.mergedNames keptOut listing) : name ∉ keptOut := by
  have hfilter := (List.mem_filter.1 h).2
  intro hmem
  simp [hmem] at hfilter

/-- Deleting merged branches keeps what deleting one of them and the log keep. -/
lemma remove_cleanup_keeps {R : TraceRelation State} {w : Workspace}
    (hlog : ∀ severity message, Keeps R (log severity message)) {target : Value} {dryRun : Bool}
    {listing : String} {current : Option String}
    (hgit : dryRun = false →
      ∀ name ∈ Listing.mergedNames (target.text?.toList ++ current.toList) listing,
        Keeps R (git w (.deleteBranch (.text name) false))) :
    Keeps R (remove w listing current (.cleanup target dryRun)) := by
  refine (Keeps.orAbort _).bind fun _ => ?_
  cases dryRun with
  | true => exact .pure _
  | false =>
    refine (deleteEach_keeps hlog (hgit rfl) _).bind fun report => ?_
    refine (invalidate_keeps hlog .cleanupMergedBranches fun state => R.nil state).bind fun _ => ?_
    exact (hlog _ _).bind fun _ => .pure _

/-- What a removal does after it has asked for the current branch keeps what deleting one of the
branches keeps that the call may delete and that are not the current one.

**Proof sketch.** A single branch is deleted only if it is not the current one, and with merged
branches the target and the current branch are kept out (`not_mem_of_mem_mergedNames`). Everything
else only looks. -/
lemma KeptByQuestions.remove {R : TraceRelation State} {w : Workspace} {asked : Question → Prop}
    (h : KeptByQuestions R w asked) {call : Call} (hcall : call.isRemoval = true)
    {current : Option String}
    (hgit : ∀ name force,
      (∀ text, name = .text text → call.MayDelete text force ∧ current ≠ some text) →
        Keeps R (git w (.deleteBranch name force)))
    (listing : String) : Keeps R (remove w listing current call) := by
  cases call with
  | deleteBranch name force =>
    rw [Session.remove]
    by_cases hname : Value.ofText? current = name
    · simp only [hname, bne_self_eq_false]
      exact .fail _
    · refine (Keeps.ensure _ _).bind fun _ => ?_
      refine (h.require name).bind fun _ => ?_
      have hdelete : Keeps R (git w (.deleteBranch name force.holds)) := by
        refine hgit name force.holds ?_
        rintro text rfl
        refine ⟨.ordered text force, ?_⟩
        rintro rfl
        exact hname rfl
      refine (gitChecked_keeps hdelete).bind fun _ => ?_
      refine (invalidate_keeps h.log .deleteBranch fun state => R.nil state).bind fun _ => ?_
      exact (h.log _ _).bind fun _ => .pure _
  | cleanup target dryRun =>
    refine remove_cleanup_keeps h.log fun hdry name hmem => ?_
    subst hdry
    have hout := not_mem_of_mem_mergedNames hmem
    refine hgit _ _ fun text htext => ?_
    obtain rfl := Value.text.inj htext
    refine ⟨.merged ?_, ?_⟩
    · rintro rfl
      simp [Value.text?] at hout
    · rintro rfl
      simp at hout
  | _ => cases hcall

/-- A removal deletes only what the call may delete, and not the current branch. -/
lemma remove_spares {call : Call} (h : call.isRemoval = true) (w : Workspace) (listing : String)
    (current : Option String) (state : State) :
    ∀ spawn ∈ ((remove w listing current call).run state).spawns, spawn.Spares call current := by
  have hkept : KeptByQuestions (.every (Spawn.Spares call current)) w (· ≠ .branch) :=
    keptByQuestions_every fun command spawn hreadOnly hasked hnames =>
      (isAside_of_isReadOnly hreadOnly hasked hnames).spares call current
  refine hkept.remove h (fun name force hname => ?_) listing state
  exact git_keeps_every w fun spawn hnames => Spawn.spares_of_names hnames hname

/-- A cause is not about the question for the current branch. -/
def IsOther (cause : Cause) : Prop :=
  cause.arguments? ≠ some (Question.branch.words.map .text)

/-- A cause that is about no command is not about that question. -/
lemma isOther_of_arguments?_none {cause : Cause} (h : cause.arguments? = none) : IsOther cause := by
  rw [IsOther, h]
  exact nofun

/-- The failures of a command other than the question for the current branch are not about it. -/
lemma isOther_of_arguments? {command : Command} (h : command ≠ .currentBranch) {cause : Cause}
    (hcause : cause.arguments? = some command.args) : IsOther cause := by
  intro hargs
  have hnames : command.Names Question.branch.words := Option.some.inj (hcause.symm.trans hargs)
  exact h (Slot.command_of_names_question hnames)

/-- Unsetting slots and saying so does not fail. -/
lemma invalidate_failsWith {p : Cause → Prop} (mutation : Mutation) :
    FailsWith p (invalidate mutation) :=
  (FailsWith.onlyIf _ (.log _ _ _)).bind fun _ => .modify _

/-- Deleting branches one after the other does not fail. -/
lemma deleteEach_failsWith {p : Cause → Prop} (w : Workspace) (names : List String)
    (report : CleanupReport) : FailsWith p (deleteEach w names report) := by
  induction names generalizing report with
  | nil => exact .pure report
  | cons name rest ih =>
    refine (FailsWith.attempt _).bind fun answer => ?_
    cases answer with
    | ok output => exact ih _
    | error cause => exact (FailsWith.log _ _ _).bind fun _ => ih _

/-- After the deletion of merged branches has asked for the current branch, it does not fail. -/
lemma remove_cleanup_failsWith {p : Cause → Prop} (w : Workspace) (listing : String)
    (current : Option String) (target : Value) (dryRun : Bool) :
    FailsWith p (remove w listing current (.cleanup target dryRun)) := by
  refine (FailsWith.orAbort _).bind fun _ => ?_
  cases dryRun with
  | true => exact .pure _
  | false =>
    refine (deleteEach_failsWith w _ _).bind fun report => ?_
    refine (invalidate_failsWith _).bind fun _ => ?_
    exact (FailsWith.log _ _ _).bind fun _ => .pure _

/-- After a removal has asked for the current branch, it does not fail because of that. -/
lemma remove_failsWith (w : Workspace) (listing : String) (current : Option String) (call : Call) :
    FailsWith IsOther (remove w listing current call) := by
  cases call with
  | deleteBranch name force =>
    have hexists : FailsWith IsOther (branchExists w name) :=
      ((git_failsWith w _).mono fun _ => isOther_of_arguments? (by nofun)).bind fun _ => .pure _
    have hdelete : FailsWith IsOther (gitChecked w (.deleteBranch name force.holds)) :=
      (gitChecked_failsWith w _).mono fun _ => isOther_of_arguments? (by nofun)
    refine (FailsWith.ensure _ (isOther_of_arguments?_none rfl)).bind fun _ => ?_
    refine (hexists.bind fun _ => .ensure _ (isOther_of_arguments?_none rfl)).bind fun _ => ?_
    refine hdelete.bind fun _ => ?_
    refine (invalidate_failsWith _).bind fun _ => ?_
    exact (FailsWith.log _ _ _).bind fun _ => .pure _
  | cleanup target dryRun => exact remove_cleanup_failsWith w listing current target dryRun
  | _ => exact .pure _

/-! ## Runs of removals -/

/-- How a removal runs: it does not come to asking for the current branch, or it asks for it, in a
repository and with the slot as it was, and what it does afterwards goes by what was learned. -/
inductive Removes (w : Workspace) (call : Call) (state : State) (r : Run State Answer) : Prop where
  | stopped (aside : ∀ spawn ∈ r.spawns, spawn.IsAside)
  | asked (first last : List Spawn) (inside : State)
      (aside : ∀ spawn ∈ first, spawn.IsAside)
      (slot : inside.cache.get .branch = state.cache.get .branch)
      (learns : Learns w inside ((currentBranchName? w).run inside))
      (spawns : r.spawns = first ++ ((currentBranchName? w).run inside).spawns ++ last)
      (kept : r.state.cache.get .branch =
        ((currentBranchName? w).run inside).state.cache.get .branch)
      (spares : ∀ spawn ∈ last, ∃ current,
        ((currentBranchName? w).run inside).outcome = .answered current ∧
          spawn.Spares call current)
      (fails : ∀ cause, r.outcome = .failed cause → IsOther cause)

/-- After a removal has asked for the current branch, the slot of that question stays as it is. -/
lemma remove_slot {call : Call} (h : call.isRemoval = true) (w : Workspace) (listing : String)
    (current : Option String) (state : State) :
    ((remove w listing current call).run state).state.cache.get .branch =
      state.cache.get .branch := by
  have hfollows : Slot.branch.Follows (state.cache.get .branch)
      ((remove w listing current call).run state).spawns
      (((remove w listing current call).run state).state.cache.get .branch) := by
    refine (keptByQuestions_tracking w).remove h (fun name force _ => ?_) listing state .branch
    exact git_keeps_tracking w fun _ => Slot.ne_command_of_alters rfl
  refine hfollows.eq_of_others fun spawn hmem => ?_
  exact (remove_spares h w listing current state spawn hmem).1

/-- After the question for the current branch, whatever comes of it, its slot stays as it is. -/
lemma slot_after_question {call : Call} (h : call.isRemoval = true) (w : Workspace)
    (listing : String) (state : State) :
    ((currentBranchName? w >>= fun current =>
        remove w listing current call).run state).state.cache.get .branch =
      ((currentBranchName? w).run state).state.cache.get .branch := by
  cases hlearned : ((currentBranchName? w).run state).outcome.isAnswered with
  | false =>
    obtain ⟨-, hstate, -⟩ := Action.run_bind_of_not_answered hlearned fun current =>
      remove w listing current call
    rw [hstate]
  | true =>
    obtain ⟨current, hcurrent⟩ := Outcome.isAnswered_iff.1 hlearned
    rw [Action.state_bind_of_answered hcurrent]
    exact remove_slot h w listing current _

/-- Before a removal asks for the current branch, it starts nothing that matters here, and the slot
of that question stays as it is. -/
lemma approach_aside (w : Workspace) (call : Call) (state : State) :
    (∀ spawn ∈ ((approach w call).run state).spawns, spawn.IsAside) ∧
      ((approach w call).run state).state.cache.get .branch = state.cache.get .branch := by
  have haside : ∀ spawn ∈ ((approach w call).run state).spawns, spawn.IsAside :=
    (keptByQuestions_every fun _ _ => isAside_of_isReadOnly).approach call state
  have hfollows : Slot.branch.Follows (state.cache.get .branch)
      ((approach w call).run state).spawns
      (((approach w call).run state).state.cache.get .branch) :=
    (keptByQuestions_tracking w).approach call state .branch
  exact ⟨haside, hfollows.eq_of_others fun spawn hmem => (haside spawn hmem).1⟩

/-- Finding out the current branch does not fail. -/
lemma currentBranchName?_failsWith {p : Cause → Prop} (w : Workspace) :
    FailsWith p (currentBranchName? w) := by
  refine (FailsWith.attempt _).bind fun answer => ?_
  cases answer with
  | ok info => exact .pure _
  | error cause => exact .pure _

/-- How a removal runs.

**Proof sketch.** A removal is its two parts with the question between them
(`perform_of_isRemoval`), each of which starts what is said of it and leaves the slot of the
question as it is. -/
lemma removal_run {call : Call} (h : call.isRemoval = true) (w : Workspace) (state : State) :
    Removes w call state ((perform w call).run state) := by
  obtain ⟨haside, hslot⟩ := approach_aside w call state
  rw [perform_of_isRemoval h]
  cases hanswered : ((approach w call).run state).outcome.isAnswered with
  | false =>
    obtain ⟨-, -, hevents⟩ := Action.run_bind_of_not_answered hanswered fun listing =>
      currentBranchName? w >>= fun current => remove w listing current call
    refine .stopped ?_
    rw [Run.spawns, hevents]
    exact haside
  | true =>
    obtain ⟨listing, hlisting⟩ := Outcome.isAnswered_iff.1 hanswered
    have hlearns := currentBranchName?_run (isInside_of_approach hlisting) w
    have hrest := Action.run_bind_of_answered hlisting fun listing =>
      currentBranchName? w >>= fun current => remove w listing current call
    have hspawns := Action.spawns_bind_of_answered hlisting fun listing =>
      currentBranchName? w >>= fun current => remove w listing current call
    have hkept := slot_after_question h w listing ((approach w call).run state).state
    have hfails : ∀ cause, ((approach w call >>= fun listing =>
        currentBranchName? w >>= fun current => remove w listing current call).run state).outcome =
          .failed cause → IsOther cause := by
      intro cause hcause
      rw [hrest] at hcause
      exact ((currentBranchName?_failsWith w).bind fun current =>
        remove_failsWith w listing current call) _ cause hcause
    -- The question answers even when its command fails; only a fault ends the run here.
    cases hlearned : ((currentBranchName? w).run
        ((approach w call).run state).state).outcome.isAnswered with
    | false =>
      obtain ⟨-, -, hevents⟩ := Action.run_bind_of_not_answered hlearned fun current =>
        remove w listing current call
      refine .asked _ [] _ haside hslot hlearns ?_ (hrest ▸ hkept) (by simp) hfails
      rw [hspawns, List.append_nil, Run.spawns, Run.spawns, Run.spawns, hevents]
    | true =>
      obtain ⟨current, hcurrent⟩ := Outcome.isAnswered_iff.1 hlearned
      refine .asked _ ((remove w listing current call).run
        ((currentBranchName? w).run ((approach w call).run state).state).state).spawns _
          haside hslot hlearns ?_ (hrest ▸ hkept) ?_ hfails
      · rw [hspawns, Action.spawns_bind_of_answered hcurrent, List.append_assoc]
      · exact fun spawn hmem => ⟨current, hcurrent, remove_spares h w listing current _ spawn hmem⟩

/-- What has happened in a removal before it deletes a branch: it has asked for the current branch,
in a repository and with the slot as it was, and has learned something from which the branch is
different. -/
inductive Precedes (w : Workspace) (call : Call) (state : State) (r : Run State Answer)
    (before : List Spawn) (name : String) (force : Bool) : Prop where
  | intro (first between : List Spawn) (inside : State) (current : Option String)
      (aside : ∀ spawn ∈ first, spawn.IsAside)
      (slot : inside.cache.get .branch = state.cache.get .branch)
      (learns : Learns w inside ((currentBranchName? w).run inside))
      (learned : ((currentBranchName? w).run inside).outcome = .answered current)
      (spawns : before = first ++ ((currentBranchName? w).run inside).spawns ++ between)
      (others : ∀ spawn ∈ between, spawn.args ≠ Question.branch.words)
      (kept : r.state.cache.get .branch =
        ((currentBranchName? w).run inside).state.cache.get .branch)
      (may : call.MayDelete name force) (other : current ≠ some name)

/-- The spawns by which a question is asked are those of its command. -/
lemma Learns.args {w : Workspace} {state : State} {r : Run State (Option String)}
    (h : Learns w state r) : ∀ spawn ∈ r.spawns, spawn.args = Question.branch.words := by
  intro spawn hmem
  cases h with
  | known _ _ spawns _ _ | unasked _ spawns _ _ => simp [spawns] at hmem
  | asked asking _ spawns args _ _ =>
    obtain rfl : spawn = asking := by simpa [spawns] using hmem
    exact args

/-- What has happened in a removal before it deletes a branch.

**Proof sketch.** What deletes a branch neither comes before the question for the current branch nor
is part of it, so that it stands behind (`split_of_append_eq`). -/
lemma Removes.precedes {w : Workspace} {call : Call} {state : State} {r : Run State Answer}
    (h : Removes w call state r) {before after : List Spawn} {spawn : Spawn} {name : String}
    {force : Bool} (hspawns : r.spawns = before ++ spawn :: after)
    (hdeletes : spawn.Deletes name force) : Precedes w call state r before name force := by
  cases h with
  | stopped aside =>
    have hmem : spawn ∈ r.spawns := by simp [hspawns]
    exact absurd hdeletes ((aside spawn hmem).2 name force)
  | asked first last inside aside slot learns spawns kept spares _ =>
    have hnot : spawn ∉ first ++ ((currentBranchName? w).run inside).spawns := by
      intro hmem
      rcases List.mem_append.1 hmem with hmem | hmem
      · exact (aside spawn hmem).2 name force hdeletes
      · exact hdeletes.args_ne .branch (learns.args spawn hmem)
    obtain ⟨between, hbefore, hlast⟩ :=
      (split_of_append_eq (spawns.symm.trans hspawns)).resolve_left
        fun ⟨_, hfirst, _⟩ => hnot (by simp [hfirst])
    obtain ⟨current, hcurrent, hspares⟩ := spares spawn (by simp [hlast])
    obtain ⟨hmay, hother⟩ := hspares.2 name force hdeletes
    refine .intro first between inside current aside slot learns hcurrent hbefore ?_ kept hmay
      hother
    intro spawn' hmem
    obtain ⟨_, _, hspares'⟩ := spares spawn' (by simp [hlast, hmem])
    exact hspares'.1

/-! ## What a call is kept from -/

/-- A run starts nothing beyond what its call is for: a call that only asks gives commands that only
ask, and some calls give none at all; what is deleted is a branch that the call may delete and that
is not in the slot for the current branch at that time, nor afterwards; and everything but the
question for the version is started in the directory of the session. -/
structure Restrained (w : Workspace) (call : Call) (state : State) (r : Run State Answer) :
    Prop where
  asks : call.onlyAsks = true →
    ∀ spawn ∈ r.spawns, ∃ command : Command, command.isReadOnly = true ∧ command.Names spawn.args
  silent : call.isSilent = true → r.spawns = []
  deletes : ∀ before spawn after name force, r.spawns = before ++ spawn :: after →
    spawn.Deletes name force → call.MayDelete name force ∧
      ∃ content, Slot.branch.Follows (state.cache.get .branch) before content ∧
        r.state.cache.get .branch = content ∧ ∀ value, content = some value → value.asText ≠ name
  directory : ∀ spawn ∈ r.spawns, spawn.args ≠ Slot.version.words →
    spawn.invocation.directory = some w.directory

/-- Only a removal deletes anything. -/
lemma isRemoval_of_deletes {w : Workspace} {call : Call} {state : State} {spawn : Spawn}
    {name : String} {force : Bool} (hmem : spawn ∈ ((perform w call).run state).spawns)
    (h : spawn.Deletes name force) : call.isRemoval = true := by
  obtain ⟨command, hnames, hgives | ⟨hreadOnly, -⟩⟩ := perform_spawns w call state spawn hmem
  · obtain rfl := h.command_eq hnames
    exact Call.isRemoval_of_gives hgives
  · exact absurd h (Spawn.not_deletes_of_isReadOnly hnames hreadOnly name force)

/-- What the slot for the current branch holds when a branch is deleted: what was learned, which is
not that branch.

**Proof sketch.** What comes before the question and after it does not touch the slot; what the
question leaves in it is what was learned (`Learns.current_eq`). -/
lemma Precedes.content {w : Workspace} {call : Call} {state : State} {r : Run State Answer}
    {before : List Spawn} {name : String} {force : Bool}
    (h : Precedes w call state r before name force) :
    ∃ content, Slot.branch.Follows (state.cache.get .branch) before content ∧
      r.state.cache.get .branch = content ∧
        ∀ value, content = some value → value.asText ≠ name := by
  obtain ⟨first, between, inside, current, aside, slot, learns, learned, rfl, others, kept, -,
    other⟩ := h
  have hfirst : Slot.branch.Follows (state.cache.get .branch) first (inside.cache.get .branch) := by
    rw [slot]
    exact .of_others fun spawn hmem => (aside spawn hmem).1
  have hquestion : Slot.branch.Follows (inside.cache.get .branch)
      ((currentBranchName? w).run inside).spawns
      (((currentBranchName? w).run inside).state.cache.get .branch) :=
    (keptByQuestions_tracking w).currentName trivial inside .branch
  refine ⟨_, (hfirst.append hquestion).append (.of_others others), kept, fun value hvalue => ?_⟩
  rintro rfl
  refine other ?_
  rw [learns.current_eq learned, hvalue]
  rfl

/-- Whatever a call starts apart from the question for the version is started in the directory of
the session. -/
lemma perform_directory (w : Workspace) (call : Call) (state : State) :
    ∀ spawn ∈ ((perform w call).run state).spawns, spawn.args ≠ Slot.version.words →
      spawn.invocation.directory = some w.directory ∧ w.host.look w.directory = .directory := by
  have hkept : KeptByQuestions (.every fun spawn => spawn.args ≠ Slot.version.words →
      spawn.invocation.directory = some w.directory ∧ w.host.look w.directory = .directory)
      w call.Asks := by
    refine keptByQuestions_of_git ?_ ?_ fun command _ _ => git_keeps_directory w command
    · exact fun _ _ _ => TraceRelation.every_of_no_spawns rfl
    · exact fun _ _ _ => TraceRelation.every_of_no_spawns rfl
  refine hkept.perform (fun command _ => git_keeps_directory w command) (fun _ => ?_) state
  exact TraceRelation.every_of_no_spawns rfl

/-- **Restraint.** In every state, and so all along every session, a call starts nothing beyond what
it is for. The calls that only ask, among them the report on merged branches, give only commands
that ask. Branches are deleted only by the order to delete that branch, by force exactly if the
caller says so, and by deleting merged branches, then never by force and never the target. What is
deleted is not the current branch as far as the cache knows it at that time.

**Proof sketch.** Every spawn is one of a command that only asks or that the call gives
(`perform_spawns`). A branch is deleted only by a removal, behind its question for the current
branch (`Removes.precedes`), when the slot holds what was learned (`Precedes.content`). -/
theorem perform_restrained (w : Workspace) (call : Call) (state : State) :
    Restrained w call state ((perform w call).run state) where
  asks := by
    intro hasks spawn hmem
    obtain ⟨command, hnames, hgives | ⟨hreadOnly, -⟩⟩ := perform_spawns w call state spawn hmem
    · exact absurd hgives (Call.not_gives_of_onlyAsks hasks)
    · exact ⟨command, hreadOnly, hnames⟩
  silent := by
    intro hsilent
    cases call with
    | version | validateBranchName name lead | clearCache => rfl
    | _ => cases hsilent
  deletes := by
    intro before spawn after name force hspawns hdeletes
    have hmem : spawn ∈ ((perform w call).run state).spawns := by simp [hspawns]
    have hremoval := isRemoval_of_deletes hmem hdeletes
    have hprecedes := (removal_run hremoval w state).precedes hspawns hdeletes
    refine ⟨?_, hprecedes.content⟩
    cases hprecedes with
    | intro _ _ _ _ _ _ _ _ _ _ _ may _ => exact may
  directory spawn hmem hargs := (perform_directory w call state spawn hmem hargs).1

end Session

end WorkTree
