import WorkTree.Proofs.Session.Grounds
import WorkTree.Proofs.Session.Health

set_option relaxedAutoImplicit false
set_option autoImplicit false

/-!
# How calls fail

A call that fails is refused by the session itself: outside a repository, with a new name that
breaks the rules, or with the current branch to be deleted; and then it has only asked where it is
and what is checked out. Otherwise it fails on a ground that its spawns give, operation by
operation. What failed on the way and was passed over is no ground.

## Main definitions

* `WorkTree.Call.forbids?`, `WorkTree.Call.bar?` — the cause for which the session itself refuses a
  call, inside a repository and anywhere.
* `WorkTree.Session.Fails` — how a call fails: it is barred, or its spawns give a ground.
* `WorkTree.Session.AnswersFor` — every failure of a call is one of these.

## Main results

* `WorkTree.Session.perform_fails` — every call that fails is barred, or fails on a ground that its
  spawns give.
-/

namespace WorkTree

/-! ## Refusals of the session -/

namespace Call

/-- The cause for which a call is refused inside a repository, although git has nothing against it,
by the cache after the call: a new name breaks some rules, or the branch to delete is the current
one as far as that is known. -/
def forbids? (call : Call) (after : Cache) : Option Cause :=
  match call with
  | .createBranch name _ =>
    if (BranchName.validateValue name).valid then none
    else some (.nameInvalid name (BranchName.validateValue name).errors)
  | .deleteBranch name _ =>
    if Value.ofText? ((after.get .branch).map Value.asText) = name then
      some (.branchCheckedOut name)
    else none
  | _ => none

/-- The cause for which a call is refused by the session itself: the directory lies in no
repository, or what holds inside one. -/
def bar? (call : Call) (w : Workspace) (state : Session.State) (after : Cache) : Option Cause :=
  match ((Session.detectRepository w).run state).outcome with
  | .answered true => call.forbids? after
  | .answered false => some (.notARepository w.directory)
  | .failed _ | .aborted _ => none

variable {call : Call} {w : Workspace}

/-- The causes with which the session refuses a call inside a repository. -/
lemma forbids?_eq_some_iff {after : Cache} {cause : Cause} :
    call.forbids? after = some cause ↔
      (∃ name checkout, call = .createBranch name checkout ∧
        (BranchName.validateValue name).valid = false ∧
        cause = .nameInvalid name (BranchName.validateValue name).errors) ∨
      ∃ name force, call = .deleteBranch name force ∧
        Value.ofText? ((after.get .branch).map Value.asText) = name ∧
        cause = .branchCheckedOut name := by
  constructor
  · intro h
    cases call with
    | createBranch name checkout =>
      rw [forbids?] at h
      cases hvalid : (BranchName.validateValue name).valid with
      | true => simp [hvalid] at h
      | false =>
        simp only [hvalid, Bool.false_eq_true, if_false, Option.some.injEq] at h
        exact .inl ⟨name, checkout, rfl, hvalid, h.symm⟩
    | deleteBranch name force =>
      rw [forbids?] at h
      split at h
      · next hcurrent => exact .inr ⟨name, force, rfl, hcurrent, (Option.some.inj h).symm⟩
      · cases h
    | _ => cases h
  · rintro (⟨name, checkout, rfl, hvalid, rfl⟩ | ⟨name, force, rfl, hcurrent, rfl⟩)
    · simp [forbids?, hvalid]
    · simp [forbids?, hcurrent]

/-- The causes with which the session itself refuses a call. -/
lemma bar?_eq_some_iff {state : Session.State} {after : Cache} {cause : Cause} :
    call.bar? w state after = some cause ↔
      ((Session.detectRepository w).run state).outcome = .answered false ∧
          cause = .notARepository w.directory ∨
      ((Session.detectRepository w).run state).outcome = .answered true ∧
        call.forbids? after = some cause := by
  rw [bar?]
  cases ((Session.detectRepository w).run state).outcome with
  | answered found =>
    cases found with
    | false =>
      constructor
      · intro h
        exact .inl ⟨rfl, (Option.some.inj h).symm⟩
      · rintro (⟨-, rfl⟩ | ⟨h, -⟩)
        · rfl
        · cases h
    | true => simp
  | failed _ | aborted _ => simp

/-- The session itself refuses a call with failures of these sorts only. -/
lemma isBar_of_bar? {state : Session.State} {after : Cache} {cause : Cause}
    (h : call.bar? w state after = some cause) : cause.kind.isBar = true := by
  rcases bar?_eq_some_iff.1 h with ⟨-, rfl⟩ | ⟨-, hforbids⟩
  · rfl
  · rcases forbids?_eq_some_iff.1 hforbids with ⟨_, _, -, -, rfl⟩ | ⟨_, _, -, -, rfl⟩
    · rfl
    · rfl

end Call

/-- A spawn asks whether the directory lies in a repository, or for the current branch. -/
def Spawn.IsProbe (spawn : Spawn) : Prop :=
  spawn.args = Slot.isRepository.words ∨ spawn.args = Question.branch.words

/-- A spawn completed. -/
def Spawn.IsCompleted (spawn : Spawn) : Prop :=
  spawn.reply.completion?.isSome = true

namespace Session

open WorkTree.Action (FailsWith)

variable {w : Workspace} {call : Call}

/-- How a call fails that the session refuses for a cause, or does not: it is refused, and has only
asked where it is and what is checked out, and was told, unless it is to delete the absent value; or
it fails on the ground that its spawns give. -/
inductive Fails (w : Workspace) (call : Call) (bar : Option Cause) (spawns : List Spawn)
    (cause : Cause) : Prop where
  | barred (refused : bar = some cause) (probes : ∀ spawn ∈ spawns, spawn.IsProbe)
      (completed : cause ≠ .branchCheckedOut .null → ∀ spawn ∈ spawns, spawn.IsCompleted)
  | grounded (free : bar = none) (ground : Ground w call spawns cause)

/-- What was asked before, and told, does not matter to how a call fails. -/
lemma Fails.behind {bar : Option Cause} {spawns : List Spawn} {cause : Cause}
    (h : Fails w call bar spawns cause) {before : List Spawn}
    (hprobes : ∀ spawn ∈ before, spawn.IsProbe)
    (hcompleted : ∀ spawn ∈ before, spawn.IsCompleted) :
    Fails w call bar (before ++ spawns) cause := by
  cases h with
  | barred refused probes completed =>
    refine .barred refused (List.forall_mem_append.2 ⟨hprobes, probes⟩) fun hnamed => ?_
    exact List.forall_mem_append.2 ⟨hcompleted, completed hnamed⟩
  | grounded free ground => exact .grounded free (ground.behind before)

/-! ## Behind the gate -/

/-- The detection fails on the ground of its own spawn. -/
lemma blames_detectRepository (state : State) :
    Blames w call ((detectRepository w).run state) := by
  intro cause hfailed
  cases detectRepository_run w state with
  | known _ _ outcome _ _ | told _ _ _ _ _ _ outcome _ _ | raised _ _ _ outcome _ =>
    cases hfailed.symm.trans outcome
  | failed cause' slot run outcome _ _ _ =>
    obtain rfl := Outcome.failed.inj (hfailed.symm.trans outcome)
    have hattempt : ((Action.attempt (git w .insideWorkTree)).run state).outcome =
        .answered (.error cause) := by
      rw [Action.run_attempt, run]
      rfl
    have hspawns : ((detectRepository w).run state).spawns =
        ((git w .insideWorkTree).run state).spawns := by
      rw [detectRepository, run_readSlot_bind, slot, Action.spawns_bind_of_answered hattempt]
      exact List.append_nil _
    have hgit : Blames w call ((git w .insideWorkTree).run state) := by
      rw [git_eq_bind_orFail]
      exact blames_git (fun _ _ _ _ hrejected => by cases hrejected) state
    rw [hspawns]
    exact hgit cause run

/-- A detection that is answered has only asked its own command, which completed. -/
lemma detectRepository_completed {state : State} {found : Bool}
    (h : ((detectRepository w).run state).outcome = .answered found) :
    ∀ spawn ∈ ((detectRepository w).run state).spawns, spawn.IsCompleted := by
  intro spawn hmem
  cases detectRepository_run w state with
  | known _ _ _ _ spawns => simp [spawns] at hmem
  | told detection completion _ _ _ reply _ _ spawns =>
    obtain rfl : spawn = detection := by simpa [spawns] using hmem
    rw [Spawn.IsCompleted, reply, Option.isSome_some]
  | failed _ _ _ outcome _ _ _ | raised _ _ _ outcome _ => cases h.symm.trans outcome

/-- A detection that is answered opens the gate or turns away, and the gate starts nothing more. -/
lemma requireRepository_of_detected {state : State} {found : Bool}
    (h : ((detectRepository w).run state).outcome = .answered found) :
    ((requireRepository w).run state).outcome =
        (if found then .answered () else .failed (.notARepository w.directory)) ∧
      ((requireRepository w).run state).spawns = ((detectRepository w).run state).spawns := by
  rw [requireRepository, Action.spawns_bind_of_answered h, Action.run_bind_of_answered h]
  cases found with
  | false => exact ⟨rfl, List.append_nil _⟩
  | true => exact ⟨rfl, List.append_nil _⟩

/-- Every failure of a call is one of those that are to be expected. -/
def AnswersFor (w : Workspace) (call : Call) : Prop :=
  ∀ state cause, ((perform w call).run state).outcome = .failed cause →
    Fails w call (call.bar? w state ((perform w call).run state).state.cache)
      ((perform w call).run state).spawns cause

/-- A call that comes behind the gate fails as expected when the rest of it does, inside a
repository.

**Proof sketch.** If the detection fails, it gives the ground. If it says no, the call is refused.
If it says yes, the rest of the call runs inside a repository, behind a completed detection. -/
lemma answersFor_of_gate {next : Unit → Session Answer}
    (hperform : perform w call = requireRepository w >>= next)
    (hnext : ∀ inside : State, inside.IsInside → ∀ cause,
      ((next ()).run inside).outcome = .failed cause →
        Fails w call (call.forbids? ((next ()).run inside).state.cache)
          ((next ()).run inside).spawns cause) :
    AnswersFor w call := by
  intro state cause hfailed
  rw [hperform] at hfailed ⊢
  have hprobes : ∀ spawn ∈ ((detectRepository w).run state).spawns, spawn.IsProbe :=
    fun spawn hmem => .inl (detectRepository_spawns w state spawn hmem)
  rw [Call.bar?]
  cases hdetected : ((detectRepository w).run state).outcome with
  | answered found =>
    have hcompleted := detectRepository_completed hdetected
    obtain ⟨hgate, hspawns⟩ := requireRepository_of_detected hdetected
    cases found with
    | false =>
      rw [Action.bind_run, hgate] at hfailed ⊢
      obtain rfl := Outcome.failed.inj hfailed
      refine .barred rfl ?_ fun _ => ?_
      · exact fun spawn hmem => hprobes spawn (hspawns ▸ hmem)
      · exact fun spawn hmem => hcompleted spawn (hspawns ▸ hmem)
    | true =>
      rw [Action.run_bind_of_answered hgate] at hfailed
      rw [Action.spawns_bind_of_answered hgate, Action.state_bind_of_answered hgate, hspawns]
      exact (hnext _ (isInside_of_requireRepository hgate) cause hfailed).behind hprobes hcompleted
  | failed cause' =>
    refine .grounded rfl ?_
    refine Blames.bind ?_ (fun _ hvalue => ?_) cause hfailed
    · refine (blames_detectRepository state).bind fun value hvalue => ?_
      cases hdetected.symm.trans hvalue
    · rw [requireRepository, Action.bind_run, hdetected] at hvalue
      cases hvalue
  | aborted fault =>
    have hended : ((requireRepository w).run state).outcome = .aborted fault := by
      rw [requireRepository, Action.bind_run, hdetected]
    rw [Action.bind_run, hended] at hfailed
    cases hfailed

/-- A call that comes behind the gate and is never refused there fails as expected when the rest of
it fails on the ground that its spawns give. -/
lemma answersFor_of_blames {next : Unit → Session Answer}
    (hperform : perform w call = requireRepository w >>= next)
    (hfree : ∀ after, call.forbids? after = none)
    (hnext : ∀ inside : State, inside.IsInside → Blames w call ((next ()).run inside)) :
    AnswersFor w call :=
  answersFor_of_gate hperform fun inside hinside cause hfailed =>
    .grounded (hfree _) (hnext inside hinside cause hfailed)

/-! ## Questions -/

/-- The answer to a question inside a repository: what its slot holds, or else what git says, which
is kept. -/
def consult (w : Workspace) (question : Question) : Session (String × Bool) := do
  match ← readSlot question.slot with
  | some value => return (value.asText, true)
  | none =>
    let text ← question.loader w
    writeSlot question.slot (.text text)
    return (text, false)

/-- A question is read by answering it behind the gate. -/
lemma read_eq (w : Workspace) (question : Question) :
    question.read w = requireRepository w >>= fun _ => consult w question :=
  rfl

/-- Answering a question inside a repository fails on the ground of its own spawn. -/
lemma blames_consult (question : Question) (state : State) :
    Blames w call ((consult w question).run state) := by
  rw [consult, run_readSlot_bind]
  cases state.cache.get question.slot with
  | some value => exact .of_never (.pure _) state
  | none =>
    refine (blames_loader question state).bind fun text _ => ?_
    exact .of_never ((FailsWith.modify _).bind fun _ => .pure _) _

/-- Inside a repository, reading a question fails on the ground of its own spawn. -/
lemma blames_read {question : Question} {inside : State} (h : inside.IsInside) :
    Blames w call ((question.read w).run inside) := by
  have hgate := requireRepository_of_isInside h w
  rw [read_eq]
  refine Blames.bind (fun cause hfailed => ?_) fun _ _ => blames_consult question _
  rw [hgate] at hfailed
  cases hfailed

/-- The call of a question fails as expected. -/
lemma answersFor_question (w : Workspace) (question : Question) :
    AnswersFor w question.call := by
  have hperform : perform w question.call = requireRepository w >>= fun _ =>
      (fun r => question.answer r.1 r.2) <$> consult w question := by
    rw [Question.perform_call, read_eq, map_bind]
  refine answersFor_of_blames hperform (fun _ => by cases question <;> rfl) fun inside _ => ?_
  exact (blames_consult question inside).map _

/-! ## Orders -/

/-- Giving commands that may change something fails on the ground of the last one that was
started. -/
lemma blames_giveAll {commands : List Command}
    (h : ∀ command ∈ commands, command.isReadOnly = false) (state : State) :
    Blames w call ((giveAll w commands).run state) := by
  induction commands generalizing state with
  | nil => exact .of_never (.pure ()) state
  | cons command rest ih =>
    obtain ⟨hlook, hcurrent⟩ := Command.verb_ne_of_alters (h command List.mem_cons_self)
    refine (blames_gitChecked hlook hcurrent state).bind fun _ _ => ?_
    exact ih (fun command' hmem => h command' (List.mem_cons_of_mem _ hmem)) _

/-- Carrying out an alteration fails on the ground of its last command that was started. -/
lemma blames_carryOut (alteration : Alteration) (state : State) :
    Blames w call ((carryOut w alteration).run state) := by
  refine (blames_giveAll (fun _ hmem => Alteration.not_isReadOnly hmem) state).bind fun _ _ => ?_
  refine .of_never ?_ _
  refine (invalidate_failsWith _).bind fun _ => ?_
  exact (FailsWith.log _ _ _).bind fun _ => .pure _

/-- Making a branch fails as expected. -/
lemma answersFor_createBranch (w : Workspace) (name : Value) (checkout : Flag) :
    AnswersFor w (.createBranch name checkout) := by
  have hperform : perform w (.createBranch name checkout) = requireRepository w >>= fun _ =>
      Action.ensure (BranchName.validateValue name).valid
        (.nameInvalid name (BranchName.validateValue name).errors) >>= fun _ =>
      (git w (.showBranch name.asText) >>= fun completion =>
        Action.orFail (if completion.ok then .error (.branchExists name) else .ok ())) >>= fun _ =>
      carryOut w (.create ⟨name, checkout⟩) := by
    refine (perform_order w (.create name checkout)).trans ?_
    simp only [prepare, branchExists, bind_assoc, pure_bind]
    congr 1
    funext _
    congr 1
    funext _
    congr 1
    funext completion
    cases completion.ok <;> rfl
  refine answersFor_of_gate hperform fun inside _ cause hfailed => ?_
  cases hvalid : (BranchName.validateValue name).valid with
  | false =>
    rw [hvalid] at hfailed
    obtain rfl := Outcome.failed.inj hfailed
    refine .barred ?_ (by rintro _ ⟨⟩) (by rintro - _ ⟨⟩)
    rw [Call.forbids?, hvalid]
    rfl
  | true =>
    rw [hvalid] at hfailed
    refine .grounded (by simp [Call.forbids?, hvalid]) ?_
    refine Blames.bind (.of_never (.pure ()) inside) (fun _ _ => ?_) cause hfailed
    refine Blames.bind ?_ fun _ _ => blames_carryOut _ _
    refine blames_git (fun args completion cause' hnames hexists => ?_) _
    obtain rfl := Command.names_showBranch_iff.1 hnames
    cases hok : completion.ok with
    | false => simp [hok] at hexists
    | true => simpa [Call.objection?, hok] using hexists

/-- Checking out a branch fails as expected. -/
lemma answersFor_checkoutBranch (w : Workspace) (name : Value) :
    AnswersFor w (.checkoutBranch name) := by
  have hperform : perform w (.checkoutBranch name) = requireRepository w >>= fun _ =>
      requireBranch w name >>= fun _ => carryOut w (.checkOut ⟨name⟩) := by
    refine (perform_order w (.checkOut name)).trans ?_
    simp only [prepare, bind_assoc, pure_bind]
  refine answersFor_of_blames hperform (fun _ => rfl) fun inside _ => ?_
  exact (blames_requireBranch rfl inside).bind fun _ _ => blames_carryOut _ _

/-- A commit fails as expected. -/
lemma answersFor_commit (w : Workspace) (message files : Value) :
    AnswersFor w (.commit message files) := by
  cases hmessage : messageText message with
  | error fault =>
    have hperform : perform w (.commit message files) = Action.abort fault := by
      refine (perform_order w (.commit message files)).trans ?_
      simp only [prepare, hmessage, Action.orAbort, Action.abort_bind]
    intro state cause hfailed
    rw [hperform] at hfailed
    cases hfailed
  | ok text =>
    have hperform : perform w (.commit message files) = requireRepository w >>= fun _ =>
        Action.orAbort (CommitScope.ofFiles files) >>= fun scope =>
        carryOut w (.commit ⟨text, scope⟩) := by
      refine (perform_order w (.commit message files)).trans ?_
      rw [prepare, hmessage, Action.orAbort]
      simp only [bind_assoc, pure_bind]
    refine answersFor_of_blames hperform (fun _ => rfl) fun inside _ => ?_
    exact (Blames.of_never (.orAbort _) inside).bind fun scope _ => blames_carryOut _ _

/-- A push fails as expected. -/
lemma answersFor_push (w : Workspace) (remote branch : Value) :
    AnswersFor w (.push remote branch) := by
  have hperform : perform w (.push remote branch) = requireRepository w >>= fun _ =>
      branchOrCurrent w branch >>= fun named => carryOut w (.push ⟨remote, named⟩) := by
    refine (perform_order w (.push remote branch)).trans ?_
    simp only [prepare, bind_assoc, pure_bind]
  refine answersFor_of_blames hperform (fun _ => rfl) fun inside hinside => ?_
  refine Blames.bind ?_ fun named _ => blames_carryOut _ _
  cases branch with
  | null =>
    have hcurrent : Blames w (.push remote .null) ((currentBranch w).run inside) := by
      rw [Question.currentBranch_eq]
      exact (blames_read hinside).map _
    exact hcurrent.bind fun info _ => .of_never (.pure _) _
  | _ => exact .of_never (.pure _) inside

/-- Listing the branches fails as expected. -/
lemma answersFor_listBranches (w : Workspace) : AnswersFor w .listBranches := by
  have hperform : perform w .listBranches = requireRepository w >>= fun _ =>
      gitChecked w .listRefs >>= fun output => currentBranchName? w >>= fun current =>
      pure (.branches { branches := Branch.ofListing current output, current }) := by
    simp only [perform, listBranches, map_bind, map_pure]
  refine answersFor_of_blames hperform (fun _ => rfl) fun inside _ => ?_
  refine (blames_gitChecked (by decide) (by decide) inside).bind fun output _ => ?_
  exact .of_never ((currentBranchName?_failsWith w).bind fun _ => .pure _) _

/-- Deleting merged branches fails as expected. -/
lemma answersFor_cleanup (w : Workspace) (target : Value) (dryRun : Bool) :
    AnswersFor w (.cleanup target dryRun) := by
  refine answersFor_of_blames (perform_cleanup w target dryRun) (fun _ => rfl) fun inside _ => ?_
  refine (blames_requireBranch rfl inside).bind fun _ _ => ?_
  refine (blames_gitChecked (by simp [Command.verb]) (by simp [Command.verb]) _).bind
    fun listing _ => ?_
  exact .of_never ((currentBranchName?_failsWith w).bind fun current =>
    remove_cleanup_failsWith w listing current target dryRun) _

/-- When a branch was learned to be checked out, the question for it completed if it was started. -/
lemma Learns.completed {state : State} {r : Run State (Option String)} (h : Learns w state r)
    {current : String} (houtcome : r.outcome = .answered (some current)) :
    ∀ spawn ∈ r.spawns, spawn.IsCompleted := by
  intro spawn hmem
  cases h with
  | known _ _ spawns _ _ | unasked _ spawns _ _ => simp [spawns] at hmem
  | asked asking _ spawns _ outcome _ =>
    obtain rfl : spawn = asking := by simpa [spawns] using hmem
    rw [outcome] at houtcome
    cases hverdict : Question.branch.verdict w spawn.reply with
    | answered text =>
      obtain ⟨completion, hreply, -⟩ := Question.verdict_eq_answered_iff.1 hverdict
      rw [Spawn.IsCompleted, (Reply.success?_eq_some_iff.1 hreply).1, Option.isSome_some]
    | failed cause | aborted fault =>
      rw [hverdict] at houtcome
      cases houtcome

/-- Deleting a branch other than the current one fails on the ground that its spawns give. -/
lemma blames_remove {name : Value} {force : Flag} {listing : String} {current : Option String}
    (hother : Value.ofText? current ≠ name) (state : State) :
    Blames w (.deleteBranch name force)
      ((remove w listing current (.deleteBranch name force)).run state) := by
  have hensure : (Value.ofText? current != name) = true := bne_iff_ne.2 hother
  rw [remove, hensure]
  refine (Blames.of_never (.pure ()) state).bind fun _ _ => ?_
  refine (blames_requireBranch rfl _).bind fun _ _ => ?_
  refine (blames_gitChecked (by simp [Command.verb]) (by simp [Command.verb]) _).bind fun _ _ => ?_
  refine .of_never ?_ _
  exact (invalidate_failsWith _).bind fun _ => (FailsWith.log _ _ _).bind fun _ => .pure _

/-- Deleting a branch fails as expected.

**Proof sketch.** What is learned of the current branch is what its slot holds to the end of the
call, and the call is refused exactly if that is the branch to delete. Otherwise the rest of it
fails on the ground that its spawns give, whatever became of the question for the current branch. -/
lemma answersFor_deleteBranch (w : Workspace) (name : Value) (force : Flag) :
    AnswersFor w (.deleteBranch name force) := by
  have hperform : perform w (.deleteBranch name force) = requireRepository w >>= fun _ =>
      currentBranchName? w >>= fun current => remove w "" current (.deleteBranch name force) := by
    rw [perform_of_isRemoval rfl]
    simp only [approach, bind_assoc, pure_bind]
  refine answersFor_of_gate hperform fun inside hinside cause hfailed => ?_
  have hlearns := currentBranchName?_run hinside w
  have hremoval : (Call.deleteBranch name force).isRemoval = true := rfl
  have hslot := slot_after_question hremoval w "" inside
  cases houtcome : ((currentBranchName? w).run inside).outcome with
  | answered current =>
    have hforbids : (Call.deleteBranch name force).forbids?
        ((currentBranchName? w >>= fun current =>
          remove w "" current (.deleteBranch name force)).run inside).state.cache =
        if Value.ofText? current = name then some (.branchCheckedOut name) else none := by
      rw [Call.forbids?, hslot, ← hlearns.current_eq houtcome]
    rw [hforbids, Action.spawns_bind_of_answered houtcome]
    rw [Action.run_bind_of_answered houtcome] at hfailed
    by_cases hname : Value.ofText? current = name
    · have hremove : ∀ state, (remove w "" current (.deleteBranch name force)).run state =
          { outcome := .failed (.branchCheckedOut name), state } := by
        intro state
        rw [remove, bne_eq_false_iff_eq.2 hname]
        rfl
      have hspawns : ∀ state,
          ((remove w "" current (.deleteBranch name force)).run state).spawns = [] := by
        intro state
        rw [hremove]
        rfl
      rw [hremove] at hfailed
      obtain rfl := Outcome.failed.inj hfailed
      rw [hspawns, List.append_nil]
      refine .barred (if_pos hname) (fun spawn hmem => .inr (hlearns.args spawn hmem)) ?_
      intro hnamed
      cases current with
      | some text => exact hlearns.completed houtcome
      | none =>
        subst hname
        exact absurd rfl hnamed
    · refine .grounded (if_neg hname) ?_
      exact (blames_remove hname _ cause hfailed).behind _
  | failed cause' =>
    exact absurd houtcome fun h => currentBranchName?_failsWith (p := fun _ => False) w _ _ h
  | aborted fault =>
    rw [Action.bind_run, houtcome] at hfailed
    cases hfailed

/-! ## Calls -/

/-- A call that has an answer in every case never fails. -/
lemma perform_failsWith {call : Call} (h : call.isFallible = false) (w : Workspace) :
    FailsWith (fun _ => False) (perform w call) := by
  cases call with
  | checkInstallation => exact (checkInstallation_failsWith w).map _
  | isRepository =>
    refine FailsWith.map _ ((FailsWith.attempt _).bind fun detected => ?_)
    cases detected with
    | ok found => exact .pure found
    | error cause => exact .pure false
  | health => exact (health_failsWith w).map _
  | overview =>
    refine FailsWith.map _ ((health_failsWith w).bind fun report => ?_)
    split
    · refine (FailsWith.attempt _).bind fun status => ?_
      exact (FailsWith.attempt _).bind fun remotes => .pure _
    · exact .pure _
  | validateBranchName name lead => exact .pure _
  | version | clearCache => exact fun _ _ hfailed => nomatch hfailed
  | _ => cases h

/-- Every call fails as expected, if it fails. -/
theorem perform_fails (w : Workspace) (call : Call) : AnswersFor w call := by
  cases call with
  | status => exact answersFor_question w .status
  | currentBranch => exact answersFor_question w .branch
  | remotes => exact answersFor_question w .remotes
  | createBranch name checkout => exact answersFor_createBranch w name checkout
  | checkoutBranch name => exact answersFor_checkoutBranch w name
  | deleteBranch name force => exact answersFor_deleteBranch w name force
  | listBranches => exact answersFor_listBranches w
  | commit message files => exact answersFor_commit w message files
  | push remote branch => exact answersFor_push w remote branch
  | cleanup target dryRun => exact answersFor_cleanup w target dryRun
  | _ => exact fun state cause hfailed => (perform_failsWith rfl w state cause hfailed).elim

end Session

end WorkTree
