import WorkTree.Proofs.Session.History

set_option relaxedAutoImplicit false
set_option autoImplicit false

/-!
# The gate of a repository

Before a session gives git anything to do with a repository, it finds out whether the directory lies
in one. The answer is kept until the cache is cleared, be it yes or no; that git could not be asked
is no answer and is not kept. A call that comes behind the gate is turned away unless the answer is
yes, and has then done nothing but ask.

## Main definitions

* `WorkTree.Spawn.Affirms` — a spawn by which git says that it runs inside a repository.
* `WorkTree.sinceCleared` — the steps since the cache was last cleared.
* `WorkTree.Call.isGated` — the calls that come behind the gate.
* `WorkTree.Session.State.IsInside` — the slot of the detection counts as yes.
* `WorkTree.Session.Admits`, `WorkTree.Session.Raises`, `WorkTree.Session.TurnsAway` — what the
  detection comes to: yes, a fault, or a failure, which is turned down with a cause.
* `WorkTree.Session.DetectsFirst` — an action starts nothing before it was told yes.

## Main results

* `WorkTree.Session.detectRepository_run` — how the detection ends.
* `WorkTree.Session.repository_gate` — nothing is started in a repository that git has not affirmed,
  and a call that comes behind the gate is turned away when it should be.
-/

namespace WorkTree

/-! ## What opens the gate -/

/-- A spawn by which git says that it runs inside a repository: the command was the one that asks
for it, it ended with the exit code zero, and it printed `true`. -/
def Spawn.Affirms (spawn : Spawn) : Prop :=
  spawn.args = Slot.isRepository.words ∧
    ∃ completion, spawn.reply.success? = some completion ∧ Text.strip completion.out = "true"

/-- A reply that is taken for a completed command that says yes affirms. -/
lemma Spawn.affirms_of_completion {spawn : Spawn} {completion : Completion}
    (hargs : spawn.args = Slot.isRepository.words)
    (hreply : spawn.reply.completion? = some completion)
    (hyes : Session.affirms completion = true) : spawn.Affirms := by
  obtain ⟨hok, hout⟩ := Bool.and_eq_true_iff.1 hyes
  exact ⟨hargs, completion, Reply.success?_eq_some_iff.2 ⟨hreply, hok⟩, by simpa using hout⟩

/-- Whether a call is the order to clear the cache. -/
def Call.isClear : Call → Bool
  | .clearCache => true
  | _ => false

/-- Whether a call comes behind the gate: it can be answered with a failure, and if it is a commit,
its message is a text. -/
def Call.isGated : Call → Bool
  | .commit message _ => message.text?.isSome
  | call => call.isFallible

/-- What is known of the repository is outdated only by the order to clear the cache. -/
lemma Call.isRepository_mem_outdates {call : Call} :
    Slot.isRepository ∈ call.outdates ↔ call.isClear = true := by
  have hmutation : ∀ mutation : Mutation, Slot.isRepository ∉ mutation.invalidates := by
    intro mutation
    cases mutation <;> decide
  cases call with
  | clearCache => decide
  | _ => simp [outdates, mutation?, isClear, hmutation]

/-- The steps since the cache was last cleared. -/
def sinceCleared (steps : List Step) : List Step :=
  steps.rtakeWhile fun step => !step.call.isClear

namespace Session

open WorkTree.Action (Keeps)

/-- An order to clear the cache is always answered. -/
lemma isAnswered_of_isClear {call : Call} (h : call.isClear = true) (w : Workspace)
    (state : State) : ((perform w call).run state).outcome.isAnswered = true := by
  cases call with
  | clearCache => rfl
  | _ => cases h

/-- What was learned of the repository was learned since the cache was last cleared. -/
lemma recent_isRepository (w : Workspace) (calls : List Call) (state : State) :
    recent .isRepository (history w calls state) = sinceCleared (history w calls state) := by
  -- On the last call, since both sides are counted from the end of the history.
  induction calls using List.reverseRecOn with
  | nil => rfl
  | append_singleton calls call ih =>
    rw [history_concat, recent_concat, sinceCleared, List.rtakeWhile_concat, ← sinceCleared, ih]
    cases hclear : call.isClear with
    | true =>
      simp [Step.forgets, Call.isRepository_mem_outdates, hclear, isAnswered_of_isClear hclear]
    | false => simp [Step.forgets, Call.isRepository_mem_outdates, hclear]

/-- When the slot of the detection counts as yes, git has affirmed the repository since the cache
was last cleared.

**Proof sketch.** The slot holds the only thing that there is to see among the spawns since then
(`history_follows`), so that one of them is of its command and was answered with yes. -/
lemma exists_affirms_of_slot {w : Workspace} {script : Script} {calls : List Call} {value : Value}
    (h : (stateAfter w calls (.initial script)).cache.get .isRepository = some value)
    (hyes : value.truthy = true) :
    ∃ spawn ∈ spawnsIn (sinceCleared (history w calls (.initial script))), spawn.Affirms := by
  have hfollows := history_follows w script calls .isRepository
  rw [h, recent_isRepository] at hfollows
  have hmem : value ∈ Slot.isRepository.sightings
      (spawnsIn (sinceCleared (history w calls (.initial script)))) := by
    rw [hfollows.sightings_eq]
    exact List.mem_singleton_self value
  obtain ⟨spawn, hspawn, hkeeps⟩ := List.mem_filterMap.1 hmem
  split at hkeeps
  · next hargs =>
    obtain ⟨completion, hreply, hreading⟩ := Option.bind_eq_some_iff.1 hkeeps
    obtain rfl := Option.some.inj hreading
    exact ⟨spawn, hspawn, Spawn.affirms_of_completion hargs hreply hyes⟩
  · cases hkeeps

/-! ## Detection -/

/-- The slot of the detection counts as yes. -/
def State.IsInside (state : State) : Prop :=
  ∃ value, state.cache.get .isRepository = some value ∧ value.truthy = true

/-- The detection says yes: its slot does or, if it is unset, the command is answered so. -/
def Admits (w : Workspace) (state : State) : Prop :=
  state.IsInside ∨
    state.cache.get .isRepository = none ∧
      ∃ completion, ((git w .insideWorkTree).run state).outcome = .answered completion ∧
        affirms completion = true

/-- The detection is ended by a fault: the slot is unset, and the command is. -/
def Raises (w : Workspace) (state : State) : Prop :=
  state.cache.get .isRepository = none ∧
    ∃ fault, ((git w .insideWorkTree).run state).outcome = .aborted fault

/-- How a detection turns a call away, by the cause of it, the cache that is left and the spawns: by
a slot that does not count as yes; by a completed command that does not say yes, which is kept; or
by a command that never completed, of which nothing is kept. -/
inductive TurnsAway (w : Workspace) (state : State) : Cause → Cache → List Spawn → Prop where
  | known {value : Value} (slot : state.cache.get .isRepository = some value)
      (no : value.truthy = false) :
      TurnsAway w state (.notARepository w.directory) state.cache []
  | denied {spawn : Spawn} {completion : Completion}
      (slot : state.cache.get .isRepository = none) (args : spawn.args = Slot.isRepository.words)
      (reply : spawn.reply.completion? = some completion) (no : ¬ spawn.Affirms) :
      TurnsAway w state (.notARepository w.directory)
        (state.cache.write .isRepository (some (.bool false))) [spawn]
  | unanswered {cause : Cause} {spawns : List Spawn}
      (slot : state.cache.get .isRepository = none)
      (run : ((git w .insideWorkTree).run state).outcome = .failed cause)
      (once : spawns.length ≤ 1) (args : ∀ spawn ∈ spawns, spawn.args = Slot.isRepository.words)
      (reply : ∀ spawn ∈ spawns, spawn.reply.completion? = none) :
      TurnsAway w state cause state.cache spawns

/-- How the detection ends: its slot answers; or a completed command does, which is kept; or the
command fails, without a completed one, or is ended by a fault, and nothing is kept. -/
inductive Detects (w : Workspace) (state : State) (r : Run State Bool) : Prop where
  | known (value : Value) (slot : state.cache.get .isRepository = some value)
      (outcome : r.outcome = .answered value.truthy) (cache : r.state.cache = state.cache)
      (spawns : r.spawns = [])
  | told (spawn : Spawn) (completion : Completion) (slot : state.cache.get .isRepository = none)
      (run : ((git w .insideWorkTree).run state).outcome = .answered completion)
      (args : spawn.args = Slot.isRepository.words)
      (reply : spawn.reply.completion? = some completion)
      (outcome : r.outcome = .answered (affirms completion))
      (cache : r.state.cache =
        state.cache.write .isRepository (some (.bool (affirms completion))))
      (spawns : r.spawns = [spawn])
  | failed (cause : Cause) (slot : state.cache.get .isRepository = none)
      (run : ((git w .insideWorkTree).run state).outcome = .failed cause)
      (outcome : r.outcome = .failed cause) (cache : r.state.cache = state.cache)
      (once : r.spawns.length ≤ 1)
      (asks : ∀ spawn ∈ r.spawns,
        spawn.args = Slot.isRepository.words ∧ spawn.reply.completion? = none)
  | raised (fault : Fault) (slot : state.cache.get .isRepository = none)
      (run : ((git w .insideWorkTree).run state).outcome = .aborted fault)
      (outcome : r.outcome = .aborted fault)
      (asks : ∀ spawn ∈ r.spawns, spawn.args = Slot.isRepository.words)

/-- The command of the detection is started at most once, and then it is answered exactly when the
reply is taken for a completed command. -/
lemma git_insideWorkTree_run (w : Workspace) (state : State) :
    (∃ spawn completion, ((git w .insideWorkTree).run state).spawns = [spawn] ∧
      ((git w .insideWorkTree).run state).outcome = .answered completion ∧
        spawn.args = Slot.isRepository.words ∧ spawn.reply.completion? = some completion) ∨
    ((git w .insideWorkTree).run state).outcome.isAnswered = false ∧
      ((git w .insideWorkTree).run state).spawns.length ≤ 1 ∧
        ∀ spawn ∈ ((git w .insideWorkTree).run state).spawns,
          spawn.args = Slot.isRepository.words ∧ spawn.reply.completion? = none := by
  rw [git_spawns, git_outcome]
  cases w.give_run .insideWorkTree state.script with
  | never spawns _ outcome => exact .inr ⟨outcome, by simp [spawns], by simp [spawns]⟩
  | once spawn spawns args _ outcome =>
    have hargs : spawn.args = Slot.isRepository.words := Slot.names_iff.1 args
    cases hanswered : ((w.give .insideWorkTree).run state.script).outcome.isAnswered with
    | true =>
      obtain ⟨completion, hcompletion⟩ := Outcome.isAnswered_iff.1 hanswered
      exact .inl ⟨spawn, completion, spawns, hcompletion, hargs, (outcome completion).1 hcompletion⟩
    | false =>
      have hreply : spawn.reply.completion? = none := by
        refine Option.eq_none_iff_forall_not_mem.2 fun completion hcompletion => ?_
        rw [(outcome completion).2 hcompletion] at hanswered
        cases hanswered
      refine .inr ⟨rfl, by simp [spawns], ?_⟩
      simp [spawns, hargs, hreply]

/-- How the detection ends. -/
lemma detectRepository_run (w : Workspace) (state : State) :
    Detects w state ((detectRepository w).run state) := by
  unfold detectRepository
  rw [run_readSlot_bind]
  cases hslot : state.cache.get .isRepository with
  | some value => exact .known value hslot rfl rfl rfl
  | none =>
    rcases git_insideWorkTree_run w state with
      ⟨spawn, completion, hspawns, hrun, hargs, hreply⟩ | ⟨hrun, honce, hall⟩
    · have hattempt : ((Action.attempt (git w .insideWorkTree)).run state).outcome =
          .answered (.ok completion) := by rw [Action.run_attempt, hrun]; rfl
      refine .told spawn completion hslot hrun hargs hreply ?_ ?_ ?_
      · rw [Action.run_bind_of_answered hattempt]; rfl
      · rw [Action.state_bind_of_answered hattempt]; rfl
      · rw [Action.spawns_bind_of_answered hattempt]
        exact (List.append_nil _).trans hspawns
    · rcases Outcome.failed_or_aborted hrun with ⟨cause, hfailed⟩ | ⟨fault, haborted⟩
      · have hattempt : ((Action.attempt (git w .insideWorkTree)).run state).outcome =
            .answered (.error cause) := by rw [Action.run_attempt, hfailed]; rfl
        refine .failed cause hslot hfailed ?_ ?_ ?_ ?_
        · rw [Action.run_bind_of_answered hattempt]; rfl
        · rw [Action.state_bind_of_answered hattempt]; rfl
        · rw [Action.spawns_bind_of_answered hattempt]
          exact (congrArg List.length (List.append_nil _)).trans_le honce
        · rw [Action.spawns_bind_of_answered hattempt]
          exact (List.append_nil _).symm ▸ hall
      · have hattempt : ((Action.attempt (git w .insideWorkTree)).run state).outcome =
            .aborted fault := by rw [Action.run_attempt, haborted]; rfl
        refine .raised fault hslot haborted ?_ ?_
        · rw [Action.bind_run, hattempt]
        · rw [Action.bind_run, hattempt]
          exact fun spawn hmem => (hall spawn hmem).1

/-- The detection starts nothing but its own command. -/
lemma detectRepository_spawns (w : Workspace) (state : State) :
    ∀ spawn ∈ ((detectRepository w).run state).spawns, spawn.args = Slot.isRepository.words := by
  intro spawn hmem
  cases detectRepository_run w state with
  | known value _ _ _ spawns => simp [spawns] at hmem
  | told first completion _ _ args _ _ _ spawns =>
    obtain rfl : spawn = first := by simpa [spawns] using hmem
    exact args
  | failed _ _ _ _ _ _ asks => exact (asks spawn hmem).1
  | raised _ _ _ _ asks => exact asks spawn hmem

/-- A detection that neither says yes nor is ended by a fault turns the call away.

**Proof sketch.** What is not yes is a slot or a completed command that says no, or a command that
failed; a completed command that says no does not affirm, since its reply is that of the one
completed command. -/
lemma requireRepository_turnsAway {w : Workspace} {state : State} (hyes : ¬ Admits w state)
    (hfault : ¬ Raises w state) :
    ∃ cause, ((requireRepository w).run state).outcome = .failed cause ∧
      TurnsAway w state cause ((requireRepository w).run state).state.cache
        ((requireRepository w).run state).spawns := by
  unfold requireRepository
  cases detectRepository_run w state with
  | known value slot outcome cache spawns =>
    have hno : value.truthy = false := by
      rw [← Bool.not_eq_true]
      exact fun h => hyes (.inl ⟨value, slot, h⟩)
    rw [hno] at outcome
    refine ⟨.notARepository w.directory, ?_, ?_⟩
    · rw [Action.run_bind_of_answered outcome]
      rfl
    · rw [Action.state_bind_of_answered outcome, Action.spawns_bind_of_answered outcome, spawns]
      exact cache ▸ .known slot hno
  | told spawn completion slot run args reply outcome cache spawns =>
    have hno : affirms completion = false := by
      rw [← Bool.not_eq_true]
      exact fun h => hyes (.inr ⟨slot, completion, run, h⟩)
    rw [hno] at outcome cache
    refine ⟨.notARepository w.directory, ?_, ?_⟩
    · rw [Action.run_bind_of_answered outcome]
      rfl
    · rw [Action.state_bind_of_answered outcome, Action.spawns_bind_of_answered outcome, spawns]
      change TurnsAway w state _ ((detectRepository w).run state).state.cache ([spawn] ++ [])
      rw [cache]
      refine .denied slot args reply ?_
      rintro ⟨-, completion', hreply, hout⟩
      obtain ⟨hcompletion, hok⟩ := Reply.success?_eq_some_iff.1 hreply
      obtain rfl := Option.some.inj (reply.symm.trans hcompletion)
      simp [affirms, hok, hout] at hno
  | failed cause slot run outcome cache once asks =>
    have hended : ((detectRepository w).run state).outcome.isAnswered = false := by
      rw [outcome]
      rfl
    obtain ⟨-, hstate, hevents⟩ := Action.run_bind_of_not_answered hended
      fun isRepository => Action.ensure isRepository (.notARepository w.directory)
    refine ⟨cause, ?_, ?_⟩
    · rw [Action.bind_run, outcome]
    · rw [Run.spawns, hstate, hevents, cache]
      exact .unanswered slot run once (fun spawn hmem => (asks spawn hmem).1)
        fun spawn hmem => (asks spawn hmem).2
  | raised fault slot run _ _ => exact absurd ⟨slot, fault, run⟩ hfault

/-! ## Behind the gate -/

/-- An action comes behind the gate: it begins with it. -/
def BehindGate {α : Type} (w : Workspace) (action : Session α) : Prop :=
  ∃ next : Unit → Session α, action = requireRepository w >>= next

/-- An action comes behind the gate when the rest of it does not matter. -/
lemma BehindGate.bind {α β : Type} {w : Workspace} {action : Session α} (h : BehindGate w action)
    (next : α → Session β) : BehindGate w (action >>= next) := by
  obtain ⟨rest, rfl⟩ := h
  exact ⟨fun value => rest value >>= next, bind_assoc _ _ _⟩

/-- An action that comes behind the gate still does so with its answer written in another way. -/
lemma BehindGate.map {α β : Type} {w : Workspace} {action : Session α} (h : BehindGate w action)
    (f : α → β) : BehindGate w (f <$> action) := by
  rw [← bind_pure_comp]
  exact h.bind _

/-- A question that is read through the cache comes behind the gate. -/
lemma behindGate_read (w : Workspace) (question : Question) : BehindGate w (question.read w) :=
  ⟨_, rfl⟩

/-- The calls that come behind the gate begin with it. -/
lemma behindGate_perform {call : Call} (h : call.isGated = true) (w : Workspace) :
    BehindGate w (perform w call) := by
  cases call with
  | status => exact Question.perform_call w .status ▸ (behindGate_read w _).map _
  | currentBranch => exact Question.perform_call w .branch ▸ (behindGate_read w _).map _
  | remotes => exact Question.perform_call w .remotes ▸ (behindGate_read w _).map _
  | createBranch name checkout | checkoutBranch name | deleteBranch name force | listBranches
  | push remote branch | cleanup target dryRun => exact BehindGate.map ⟨_, rfl⟩ _
  | commit message files =>
    cases message with
    | text message => exact BehindGate.map ⟨_, pure_bind message _⟩ _
    | _ => cases h
  | _ => cases h

/-- An action detects the repository before anything else, and starts nothing more unless it is told
yes. -/
def DetectsFirst {α : Type} (w : Workspace) (action : Session α) : Prop :=
  ∃ next : Except Cause Bool → Session α, action = Action.attempt (detectRepository w) >>= next ∧
    ∀ answer, answer ≠ .ok true → ∀ state, ((next answer).run state).spawns = []

/-- What comes behind the gate detects the repository first. -/
lemma BehindGate.detectsFirst {α : Type} {w : Workspace} {action : Session α}
    (h : BehindGate w action) : DetectsFirst w action := by
  obtain ⟨next, rfl⟩ := h
  rw [requireRepository, bind_assoc, Action.bind_eq_attempt_bind]
  refine ⟨_, rfl, fun answer hanswer state => ?_⟩
  match answer with
  | .ok true => exact absurd rfl hanswer
  | .ok false => rfl
  | .error cause => rfl

/-- The report detects the repository first. -/
lemma detectsFirst_health (w : Workspace) : DetectsFirst w (health w) := by
  refine ⟨_, rfl, fun answer hanswer state => ?_⟩
  match answer with
  | .ok true => exact absurd rfl hanswer
  | .ok false => rfl
  | .error cause => rfl

/-- The report with the raw listings detects the repository first. -/
lemma detectsFirst_overview (w : Workspace) : DetectsFirst w (overview w) := by
  rw [overview, health, bind_assoc]
  refine ⟨_, rfl, fun answer hanswer state => ?_⟩
  match answer with
  | .ok true => exact absurd rfl hanswer
  | .ok false => rfl
  | .error cause => rfl

/-- An action that detects the repository first still does so with its answer written in another
way. -/
lemma DetectsFirst.map {α β : Type} {w : Workspace} {action : Session α}
    (h : DetectsFirst w action) (f : α → β) : DetectsFirst w (f <$> action) := by
  obtain ⟨next, rfl, hnext⟩ := h
  refine ⟨fun answer => f <$> next answer, map_bind _ _ _, fun answer hanswer state => ?_⟩
  rw [Action.run_map]
  exact hnext answer hanswer state

/-- Checking the installation asks for nothing but the version. -/
lemma checkInstallation_spawns (w : Workspace) (state : State) :
    ∀ spawn ∈ ((checkInstallation w).run state).spawns, spawn.args = Slot.version.words := by
  have hversion : Keeps (.every fun spawn => spawn.args = Slot.version.words)
      (gitChecked w .version) :=
    gitChecked_keeps (git_keeps_every w fun spawn hnames => Slot.names_iff.1 hnames)
  have hcheck : Keeps (.every fun spawn => spawn.args = Slot.version.words)
      (checkInstallation w) := by
    refine (readSlot_keeps .version).bind fun content => ?_
    cases content with
    | some value => exact .pure true
    | none =>
      refine hversion.attempt.bind fun answer => ?_
      cases answer with
      | error cause => exact fun _ => TraceRelation.every_of_no_spawns rfl
      | ok output =>
        dsimp only
        split <;> exact fun _ => TraceRelation.every_of_no_spawns rfl
  exact hcheck state

/-- Every call asks for nothing but the version or detects the repository first. -/
lemma perform_detectsFirst (w : Workspace) (call : Call) :
    (∀ state, ∀ spawn ∈ ((perform w call).run state).spawns, spawn.args = Slot.version.words) ∨
      DetectsFirst w (perform w call) := by
  cases call with
  | checkInstallation =>
    left
    intro state
    rw [perform, Action.run_map]
    exact checkInstallation_spawns w state
  | isRepository =>
    refine .inr (DetectsFirst.map ⟨_, rfl, fun answer _ state => ?_⟩ _)
    cases answer <;> rfl
  | health => exact .inr ((detectsFirst_health w).map _)
  | overview => exact .inr ((detectsFirst_overview w).map _)
  | version | validateBranchName name lead | clearCache =>
    left
    intro state spawn hmem
    cases hmem
  | commit message files =>
    cases message with
    | text message => exact .inr (behindGate_perform rfl w).detectsFirst
    | _ =>
      left
      intro state spawn hmem
      cases hmem
  | _ => exact .inr (behindGate_perform rfl w).detectsFirst

/-- When an action that detects the repository first starts something else than the detection, the
slot of the detection counted as yes before, or git affirmed the repository earlier in the run.

**Proof sketch.** The spawns are those of the detection and then those of the rest. The rest starts
something only when the detection says yes: by its slot, or by a completed command, whose spawn is
the first one of the run. -/
lemma DetectsFirst.exists_affirms {α : Type} {w : Workspace} {action : Session α}
    (h : DetectsFirst w action) {state : State} {before after : List Spawn} {spawn : Spawn}
    (hspawns : (action.run state).spawns = before ++ spawn :: after)
    (hargs : spawn.args ≠ Slot.isRepository.words) :
    state.IsInside ∨ ∃ detection ∈ before, detection.Affirms := by
  obtain ⟨next, rfl, hnext⟩ := h
  have hmem : spawn ∈ before ++ spawn :: after := by simp
  have hrest : ∃ answer,
      ((Action.attempt (detectRepository w)).run state).outcome = .answered answer ∧
        spawn ∈ ((next answer).run ((detectRepository w).run state).state).spawns := by
    rw [← hspawns] at hmem
    rcases Action.mem_spawns_bind_iff.1 hmem with hdetect | ⟨answer, hanswer, hrest⟩
    · exact absurd (detectRepository_spawns w state spawn hdetect) hargs
    · exact ⟨answer, hanswer, hrest⟩
  obtain ⟨answer, hanswer, hspawn⟩ := hrest
  have hyes : answer = .ok true := by
    by_contra hno
    rw [hnext answer hno] at hspawn
    cases hspawn
  subst hyes
  rw [Action.spawns_bind_of_answered hanswer] at hspawns
  rw [Action.run_attempt] at hanswer hspawns
  cases detectRepository_run w state with
  | known value slot outcome _ _ =>
    simp only [outcome, Outcome.attempted, Outcome.answered.injEq, Except.ok.injEq] at hanswer
    exact .inl ⟨value, slot, hanswer⟩
  | told detection completion _ _ args reply outcome _ spawns =>
    simp only [outcome, Outcome.attempted, Outcome.answered.injEq, Except.ok.injEq] at hanswer
    change ((detectRepository w).run state).spawns ++ _ = before ++ spawn :: after at hspawns
    rw [spawns, List.singleton_append] at hspawns
    -- The detection is the first spawn of the run, and the one in question is another.
    cases before with
    | nil =>
      obtain ⟨rfl, -⟩ := List.cons.inj hspawns
      exact absurd args hargs
    | cons first before =>
      obtain ⟨rfl, -⟩ := List.cons.inj hspawns
      exact .inr ⟨detection, List.mem_cons_self, Spawn.affirms_of_completion args reply hanswer⟩
  | failed _ _ _ outcome _ _ _ => simp [outcome, Outcome.attempted] at hanswer
  | raised _ _ _ outcome _ => simp [outcome, Outcome.attempted] at hanswer

/-- **The gate.** Whatever is started apart from the questions for the version and for the
repository has been preceded, since the session began or the cache was last cleared, by a spawn by
which git affirmed the repository. And when the detection neither says yes nor is ended by a fault,
every call that comes behind the gate fails: with the cause for which the command of the detection
failed, or because the directory lies in no repository. It has then started nothing but that command
once at the most, and of the cache it has written to nothing but the slot of the detection, and to
that one only if the command completed.

**Proof sketch.** Every call detects the repository first (`perform_detectsFirst`), and starts
something else only after a yes. If that was in the slot, git affirmed the repository in an earlier
call (`exists_affirms_of_slot`). A call behind the gate begins with it (`behindGate_perform`), and
ends there if it is turned away (`requireRepository_turnsAway`). -/
theorem repository_gate (w : Workspace) :
    (∀ (script : Script) (earlier : List Call) (call : Call) (before after : List Spawn)
        (spawn : Spawn),
      ((perform w call).run (stateAfter w earlier (.initial script))).spawns =
          before ++ spawn :: after →
        spawn.args ≠ Slot.version.words → spawn.args ≠ Slot.isRepository.words →
          ∃ detection ∈
              spawnsIn (sinceCleared (history w earlier (.initial script))) ++ before,
            detection.Affirms) ∧
    ∀ (call : Call) (state : State), call.isGated = true → ¬ Admits w state → ¬ Raises w state →
      ∃ cause, ((perform w call).run state).outcome = .failed cause ∧
        TurnsAway w state cause ((perform w call).run state).state.cache
          ((perform w call).run state).spawns := by
  constructor
  · intro script earlier call before after spawn hspawns hversion hargs
    rcases perform_detectsFirst w call with honly | hfirst
    · refine absurd (honly (stateAfter w earlier (.initial script)) spawn ?_) hversion
      rw [hspawns]
      simp
    · rcases hfirst.exists_affirms hspawns hargs with ⟨value, hslot, hyes⟩ | ⟨detection, hmem, h⟩
      · obtain ⟨detection, hmem, h⟩ := exists_affirms_of_slot hslot hyes
        exact ⟨detection, List.mem_append_left _ hmem, h⟩
      · exact ⟨detection, List.mem_append_right _ hmem, h⟩
  · intro call state hgated hyes hfault
    obtain ⟨next, hperform⟩ := behindGate_perform hgated w
    obtain ⟨cause, houtcome, haway⟩ := requireRepository_turnsAway hyes hfault
    have hended : ((requireRepository w).run state).outcome.isAnswered = false := by
      rw [houtcome]
      rfl
    obtain ⟨-, hstate, hevents⟩ := Action.run_bind_of_not_answered hended next
    rw [hperform]
    refine ⟨cause, ?_, ?_⟩
    · rw [Action.bind_run, houtcome]
    · rw [Run.spawns, hstate, hevents]
      exact haway

/-- The question for the remotes after the one for changes: git has affirmed the repository for the
former. And outside a repository the question for changes is turned away. -/
theorem repository_gate_remotes :
    let state := stateAfter .plain [.status] (.initial .oneChange)
    let outside := State.initial (.succeeding [])
    (∃ spawn : Spawn, ((perform .plain .remotes).run state).spawns = [] ++ spawn :: [] ∧
      spawn.args ≠ Slot.version.words ∧ spawn.args ≠ Slot.isRepository.words ∧
        ∃ detection ∈
            spawnsIn (sinceCleared (history .plain [.status] (.initial .oneChange))) ++ [],
          detection.Affirms) ∧
    Call.isGated .status = true ∧ ¬ Admits .plain outside ∧ ¬ Raises .plain outside ∧
      ∃ cause, ((perform .plain .status).run outside).outcome = .failed cause ∧
        TurnsAway .plain outside cause ((perform .plain .status).run outside).state.cache
          ((perform .plain .status).run outside).spawns := by
  intro state outside
  have hrun : ((git .plain .insideWorkTree).run outside).outcome =
      .answered ⟨.int 1, "", ""⟩ := by decide
  have hyes : ¬ Admits .plain outside := by
    rintro (⟨value, hslot, -⟩ | ⟨-, completion, hanswered, hyes⟩)
    · cases hslot
    · obtain rfl := Outcome.answered.inj (hrun.symm.trans hanswered)
      cases hyes
  have hfault : ¬ Raises .plain outside := by
    rintro ⟨-, fault, haborted⟩
    cases hrun.symm.trans haborted
  refine ⟨⟨_, rfl, by decide, by decide, ?_⟩, rfl, hyes, hfault, ?_⟩
  · exact (repository_gate .plain).1 .oneChange [.status] .remotes [] [] _ rfl (by decide)
      (by decide)
  · exact (repository_gate .plain).2 .status outside rfl hyes hfault

end Session

end WorkTree
