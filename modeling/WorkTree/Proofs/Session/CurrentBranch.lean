import WorkTree.Proofs.Session.Gate
import WorkTree.Proofs.Verdict

set_option relaxedAutoImplicit false
set_option autoImplicit false

/-!
# Finding out the current branch

Some calls have to know the current branch, but go on when it cannot be found out. They look into
the slot of the question and, if it is unset, give the command of it. What that comes to depends on
the reply alone: git may name the branch, it may say that there is none, or the command may fail for
another reason; the last two are the same to these calls.

## Main definitions

* `WorkTree.Outcome.judged`, `WorkTree.Question.verdict` — what a reply to the command of a question
  comes to.
* `WorkTree.Outcome.learned` — what is learned from an outcome when failures do not matter.
* `WorkTree.Session.Learns` — how finding out the current branch ends.

## Main results

* `WorkTree.Session.currentBranchName?_run` — how finding out the current branch ends in a
  repository.
* `WorkTree.Session.Learns.current_eq` — what was learned is what the slot then holds.
-/

namespace WorkTree

/-! ## Verdicts -/

/-- What an answer that may be turned down comes to. -/
def Outcome.judged {α β : Type} (accept : α → Except Cause β) : Outcome α → Outcome β
  | .answered value =>
    match accept value with
    | .ok result => .answered result
    | .error cause => .failed cause
  | .failed cause => .failed cause
  | .aborted fault => .aborted fault

/-- What is learned from an outcome when it does not matter why an action failed. -/
def Outcome.learned {α : Type} : Outcome α → Outcome (Option α)
  | .answered value => .answered (some value)
  | .failed _ => .answered none
  | .aborted fault => .aborted fault

/-- An action whose answer may be turned down comes to what the answer is judged to be, and does
nothing more. -/
lemma Action.run_bind_orFail {σ α β : Type} (first : Action σ α) (accept : α → Except Cause β)
    (state : σ) :
    (first >>= fun value => orFail (accept value)).run state =
      { outcome := (first.run state).outcome.judged accept, state := (first.run state).state,
        events := (first.run state).events } := by
  rw [bind_run]
  cases (first.run state).outcome with
  | answered value =>
    simp only [Outcome.judged]
    cases accept value <;> simp [orFail]
  | failed cause => rfl
  | aborted fault => rfl

/-- What a reply to the command of a question comes to. -/
def Question.verdict (w : Workspace) (question : Question) (reply : Reply) : Outcome String :=
  (w.runner.verdict question.words reply).judged (question.accept w)

/-- A reply answers a question exactly when it has the exit code zero. -/
lemma Question.verdict_eq_answered_iff {w : Workspace} {question : Question} {reply : Reply}
    {text : String} :
    question.verdict w reply = .answered text ↔
      ∃ completion, reply.success? = some completion ∧ question.trim completion.out = text := by
  have hverdict : ∀ completion, reply.completion? = some completion ↔
      w.runner.verdict question.words reply = .answered completion :=
    fun _ => Runner.verdict_eq_answered_iff.symm
  simp only [Reply.success?_eq_some_iff, hverdict, verdict]
  cases w.runner.verdict question.words reply with
  | answered completion =>
    by_cases hok : completion.ok = true <;> simp [Outcome.judged, accept, hok]
  | failed cause => simp [Outcome.judged]
  | aborted fault => simp [Outcome.judged]

namespace Session

open WorkTree.Action (Keeps)

/-! ## Readings in a repository -/

/-- In a repository the gate is open. -/
lemma requireRepository_of_isInside {state : State} (h : state.IsInside) (w : Workspace) :
    (requireRepository w).run state = { outcome := .answered (), state } := by
  obtain ⟨value, hslot, hyes⟩ := h
  unfold requireRepository detectRepository
  rw [bind_assoc, run_readSlot_bind, hslot]
  change (Action.ensure value.truthy _).run state = _
  rw [hyes]
  rfl

/-- In a repository a question that is in the cache is answered from there. -/
lemma read_of_slot {state : State} (h : state.IsInside) (w : Workspace) {question : Question}
    {value : Value} (hslot : state.cache.get question.slot = some value) :
    (question.read w).run state = { outcome := .answered (value.asText, true), state } := by
  rw [Question.read, cachedRead, Action.run_bind_of_still (requireRepository_of_isInside h w),
    run_readSlot_bind, hslot]
  rfl

/-- Past the gate the session is in a repository. -/
lemma isInside_of_requireRepository {w : Workspace} {state : State}
    (h : ((requireRepository w).run state).outcome = .answered ()) :
    ((requireRepository w).run state).state.IsInside := by
  obtain ⟨found, hfound, hensure⟩ := Action.answered_bind_iff.1 h
  have hyes : found = true := by
    cases found with
    | true => rfl
    | false => cases hensure
  subst hyes
  rw [requireRepository, Action.state_bind_of_answered hfound]
  change ((detectRepository w).run state).state.IsInside
  cases detectRepository_run w state with
  | known value slot outcome cache _ =>
    refine ⟨value, cache ▸ slot, ?_⟩
    exact Outcome.answered.inj (outcome.symm.trans hfound)
  | told spawn completion _ _ _ _ outcome cache _ =>
    refine ⟨.bool (affirms completion), ?_, Outcome.answered.inj (outcome.symm.trans hfound)⟩
    rw [cache, Cache.get_write, if_pos rfl]
  | failed _ _ _ outcome _ _ _ | raised _ _ _ outcome _ => cases outcome.symm.trans hfound

/-- How asking a question that is not in the cache ends: its command is not started, and if that is
a failure, then the directory does not exist; or it is started and comes to what the reply does. The
cache has no part in it. -/
inductive Loads (w : Workspace) (question : Question) (state : State) (r : Run State String) :
    Prop where
  | never (spawns : r.spawns = []) (cache : r.state.cache = state.cache)
      (unanswered : r.outcome.isAnswered = false)
      (missing : ∀ cause, r.outcome = .failed cause → w.host.look w.directory ≠ .directory)
  | once (spawn : Spawn) (spawns : r.spawns = [spawn]) (cache : r.state.cache = state.cache)
      (args : spawn.args = question.words) (outcome : r.outcome = question.verdict w spawn.reply)

/-- How asking a question that is not in the cache ends. -/
lemma loader_run (w : Workspace) (question : Question) (state : State) :
    Loads w question state ((question.loader w).run state) := by
  rw [question.loader_eq, Action.run_bind_orFail]
  cases w.give_run question.command state.script with
  | never spawns _ unanswered =>
    have hspawns : ((git w question.command).run state).spawns = [] := spawns
    rw [← git_outcome] at unanswered
    rcases Outcome.failed_or_aborted unanswered with ⟨cause, hfailed⟩ | ⟨fault, haborted⟩
    · rw [hfailed]
      refine .never hspawns rfl rfl fun _ _ hlook => ?_
      exact git_spawns_ne_nil hlook hfailed hspawns
    · rw [haborted]
      refine .never hspawns rfl rfl ?_
      rintro _ ⟨⟩
  | once spawn spawns names _ _ =>
    have hspawns : ((git w question.command).run state).spawns = [spawn] := spawns
    have hargs : spawn.args = question.words := by
      rw [← Slot.words_question]
      refine Slot.names_iff.1 ?_
      cases question <;> exact names
    have hlaunch := git_launches (hspawns ▸ List.mem_singleton_self spawn)
    refine .once spawn hspawns rfl hargs ?_
    change ((git w question.command).run state).outcome.judged (question.accept w) = _
    rw [git_outcome, hlaunch.outcome, hargs]
    rfl

/-! ## The current branch -/

/-- How finding out the current branch ends: its slot tells it; or the command is started, and what
is learned and kept is what the reply comes to; or it is not started, and then nothing is learned or
kept, and the directory does not exist unless a fault is the end of it. -/
inductive Learns (w : Workspace) (state : State) (r : Run State (Option String)) : Prop where
  | known (value : Value) (slot : state.cache.get .branch = some value) (spawns : r.spawns = [])
      (outcome : r.outcome = .answered (some value.asText))
      (kept : r.state.cache.get .branch = some value)
  | asked (spawn : Spawn) (slot : state.cache.get .branch = none) (spawns : r.spawns = [spawn])
      (args : spawn.args = Question.branch.words)
      (outcome : r.outcome = (Question.branch.verdict w spawn.reply).learned)
      (kept : r.state.cache.get .branch =
        (Question.branch.verdict w spawn.reply).answer?.map .text)
  | unasked (slot : state.cache.get .branch = none) (spawns : r.spawns = [])
      (outcome : ∀ current, r.outcome = .answered current →
        current = none ∧ w.host.look w.directory ≠ .directory)
      (kept : r.state.cache.get .branch = none)

/-- Finding out the current branch is reading the question for it. -/
lemma run_currentBranchName? (w : Workspace) (state : State) :
    (currentBranchName? w).run state =
      { outcome := (((Question.branch.read w).run state).outcome.map Prod.fst).learned
        state := ((Question.branch.read w).run state).state
        events := ((Question.branch.read w).run state).events } := by
  unfold currentBranchName?
  rw [Action.bind_run, Action.run_attempt, Question.currentBranch_eq, Action.run_map]
  cases ((Question.branch.read w).run state).outcome <;>
    simp [Outcome.map, Outcome.learned]

/-- How finding out the current branch ends in a repository.

**Proof sketch.** The gate is open, so that the question is answered from its slot or asked
(`loader_run`). It is then kept if it was answered, and only then. -/
lemma currentBranchName?_run {state : State} (h : state.IsInside) (w : Workspace) :
    Learns w state ((currentBranchName? w).run state) := by
  have hgate := requireRepository_of_isInside h w
  rw [run_currentBranchName?, Question.read, cachedRead,
    Action.run_bind_of_answered (congrArg Run.outcome hgate), hgate]
  simp only [List.nil_append, run_readSlot_bind, Question.slot]
  cases hslot : state.cache.get .branch with
  | some value => exact .known value hslot rfl rfl hslot
  | none =>
    simp only [Action.bind_run]
    cases loader_run w .branch state with
    | never spawns cache unanswered missing =>
      have hkept := (congrArg (Cache.get · .branch) cache).trans hslot
      rcases Outcome.failed_or_aborted unanswered with ⟨cause, hfailed⟩ | ⟨fault, haborted⟩
      · rw [hfailed]
        refine .unasked hslot spawns (fun current hcurrent => ?_) hkept
        exact ⟨(Outcome.answered.inj hcurrent).symm, missing cause hfailed⟩
      · rw [haborted]
        refine .unasked hslot spawns ?_ hkept
        rintro _ ⟨⟩
    | once spawn spawns cache args outcome =>
      have hkept := (congrArg (Cache.get · .branch) cache).trans hslot
      rw [outcome]
      cases hverdict : Question.branch.verdict w spawn.reply with
      | answered text =>
        refine .asked spawn hslot ?_ args ?_ ?_
        · exact (congrArg spawnsOf (List.append_nil _)).trans spawns
        · rw [hverdict]; rfl
        · rw [hverdict]; rfl
      | failed cause =>
        refine .asked spawn hslot spawns args ?_ ?_
        · rw [hverdict]; rfl
        · rw [hverdict]; exact hkept
      | aborted fault =>
        refine .asked spawn hslot spawns args ?_ ?_
        · rw [hverdict]; rfl
        · rw [hverdict]; exact hkept

/-- When the slot of the current branch is then set, that is what was learned. -/
lemma Learns.outcome_of_kept {w : Workspace} {state : State} {r : Run State (Option String)}
    (h : Learns w state r) {value : Value} (hkept : r.state.cache.get .branch = some value) :
    r.outcome = .answered (some value.asText) := by
  cases h with
  | known value' _ _ outcome kept =>
    obtain rfl := Option.some.inj (hkept.symm.trans kept)
    exact outcome
  | asked spawn _ _ _ outcome kept =>
    rw [kept] at hkept
    cases hverdict : Question.branch.verdict w spawn.reply with
    | answered text =>
      rw [hverdict] at hkept outcome
      obtain rfl := Option.some.inj hkept
      exact outcome
    | failed cause | aborted fault => rw [hverdict] at hkept; cases hkept
  | unasked _ _ _ kept =>
    rw [kept] at hkept
    cases hkept

/-- What was learned of the current branch is what its slot then holds. -/
lemma Learns.current_eq {w : Workspace} {state : State} {r : Run State (Option String)}
    (h : Learns w state r) {current : Option String} (hcurrent : r.outcome = .answered current) :
    current = (r.state.cache.get .branch).map Value.asText := by
  cases h with
  | known value _ _ outcome kept =>
    rw [outcome] at hcurrent
    rw [kept]
    exact (Outcome.answered.inj hcurrent).symm
  | asked spawn _ _ _ outcome kept =>
    rw [outcome] at hcurrent
    rw [kept]
    cases hverdict : Question.branch.verdict w spawn.reply with
    | aborted fault => rw [hverdict] at hcurrent; cases hcurrent
    | _ =>
      rw [hverdict] at hcurrent
      exact (Outcome.answered.inj hcurrent).symm
  | unasked _ _ outcome kept =>
    rw [kept]
    exact (outcome current hcurrent).1

end Session

end WorkTree
