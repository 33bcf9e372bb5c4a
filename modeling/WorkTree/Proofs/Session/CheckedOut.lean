import WorkTree.Proofs.Session.Deletions

set_option relaxedAutoImplicit false
set_option autoImplicit false

/-!
# Sparing the branch that is checked out

The branch that is checked out should not be deleted. A removal keeps to that when it knows the
current branch, from its slot or from git, or when git says that none is checked out. When the
question for it fails in another way the removal goes on all the same, as if no branch were checked
out, and does not tell.

## Main definitions

* `WorkTree.Reply.SaysDetached`, `WorkTree.Spawn.FailsToTell` — a reply that says that no branch is
  checked out, and a spawn that does not tell the current branch for another reason.
* `WorkTree.Session.Tells` — the current branch is known in a call.
* `WorkTree.Session.Spared` — that a branch is not the current one is known when it is deleted.
* `WorkTree.Session.Guards` — a run deletes only such branches, and reports that the current branch
  cannot be told.

## Main results

* `WorkTree.Session.learned_iff_tells` — a removal finds out the current branch exactly when that is
  known.
* `WorkTree.Session.guards_iff` — a removal guards the current branch exactly unless the question
  for it fails.
* `WorkTree.Session.not_guards_of_timedOut` — a branch that is deleted although the question for the
  current branch ran out of time.
-/

namespace WorkTree

/-! ## Replies to the question for the current branch -/

/-- A reply says that no branch is checked out: the command ends with the exit code one and prints
no errors. -/
def Reply.SaysDetached (reply : Reply) : Prop :=
  ∃ completion, reply.completion? = some completion ∧ completion.ok = false ∧
    completion.hasCode 1 = true ∧ Text.strip completion.err = ""

/-- The cause that the question for the current branch is turned down with when no branch is checked
out stands for a reply that says so. -/
lemma Question.verdict_eq_detached_iff {w : Workspace} {reply : Reply} :
    Question.branch.verdict w reply = .failed (.headDetached w.directory) ↔
      reply.SaysDetached := by
  unfold Reply.SaysDetached
  have hverdict : ∀ completion, reply.completion? = some completion ↔
      w.runner.verdict Question.branch.words reply = .answered completion :=
    fun _ => Runner.verdict_eq_answered_iff.symm
  simp only [hverdict, verdict]
  cases houtcome : w.runner.verdict Question.branch.words reply with
  | answered completion =>
    by_cases hok : completion.ok = true
    · simp [Outcome.judged, accept, hok]
    · by_cases hdetached : completion.hasCode 1 = true ∧ Text.strip completion.err = ""
      · simp [Outcome.judged, accept, refusal, hok, hdetached]
      · simp only [Outcome.judged, accept, refusal, hok, hdetached, if_false, Bool.false_eq_true]
        simp_all
  | failed cause =>
    have harguments := Runner.arguments?_of_verdict houtcome
    simp only [Outcome.judged, Outcome.failed.injEq, reduceCtorEq, false_and, exists_false,
      iff_false]
    rintro rfl
    cases harguments
  | aborted fault => simp [Outcome.judged]

/-- When the question for the current branch fails, then because no branch is checked out, or the
cause tells the arguments of the question. -/
lemma Question.arguments?_of_verdict {w : Workspace} {reply : Reply} {cause : Cause}
    (h : Question.branch.verdict w reply = .failed cause)
    (hcause : cause ≠ .headDetached w.directory) :
    cause.arguments? = some (Question.branch.words.map .text) := by
  unfold verdict at h
  cases houtcome : w.runner.verdict Question.branch.words reply with
  | answered completion =>
    rw [houtcome] at h
    by_cases hok : completion.ok = true
    · simp [Outcome.judged, accept, hok] at h
    · by_cases hdetached : completion.hasCode 1 = true ∧ Text.strip completion.err = ""
      · simp only [Outcome.judged, accept, refusal, hok, hdetached] at h
        exact absurd (Outcome.failed.inj h).symm hcause
      · simp only [Outcome.judged, accept, refusal, hok, hdetached] at h
        obtain rfl := Outcome.failed.inj h
        rfl
  | failed cause' =>
    rw [houtcome] at h
    obtain rfl := Outcome.failed.inj h
    exact Runner.arguments?_of_verdict houtcome
  | aborted fault =>
    rw [houtcome] at h
    cases h

/-- A spawn does not tell the current branch, for the cause that the question for it fails with, and
not because none is checked out. -/
def Spawn.FailsToTell (w : Workspace) (spawn : Spawn) (cause : Cause) : Prop :=
  spawn.args = Question.branch.words ∧
    Question.branch.verdict w spawn.reply = .failed cause ∧ cause ≠ .headDetached w.directory

namespace Session

/-! ## Knowing the current branch -/

/-- The current branch is known in a call: its slot was set from the beginning and holds it, or git
has named it. -/
inductive Tells (state : State) (spawns : List Spawn) (current : String) : Prop where
  | kept (value : Value) (slot : state.cache.get .branch = some value)
      (same : value.asText = current)
  | told (spawn : Spawn) (completion : Completion) (mem : spawn ∈ spawns)
      (args : spawn.args = Question.branch.words)
      (reply : spawn.reply.success? = some completion)
      (same : Text.strip completion.out = current)

/-- What a removal asks for the current branch, it asks where it finds that out. -/
lemma mem_question_of_removal {w : Workspace} {call : Call} (hcall : call.isRemoval = true)
    {state : State} {spawn : Spawn} (hmem : spawn ∈ ((perform w call).run state).spawns)
    (hargs : spawn.args = Question.branch.words) :
    spawn ∈ ((currentBranchName? w).run ((approach w call).run state).state).spawns := by
  rw [perform_of_isRemoval hcall] at hmem
  rcases Action.mem_spawns_bind_iff.1 hmem with happroach | ⟨listing, -, hrest⟩
  · exact absurd hargs ((approach_aside w call state).1 spawn happroach).1
  · rcases Action.mem_spawns_bind_iff.1 hrest with hquestion | ⟨current, -, hremove⟩
    · exact hquestion
    · exact absurd hargs (remove_spares hcall w listing current _ spawn hremove).1

/-- A removal finds out the current branch exactly when that is known.

**Proof sketch.** It finds it in the slot, which nothing has written to before
(`approach_aside`), or in the reply to the only question for it (`mem_question_of_removal`). -/
lemma learned_iff_tells {w : Workspace} {call : Call} (hcall : call.isRemoval = true)
    {state : State} {listing name : String}
    (hlisting : ((approach w call).run state).outcome = .answered listing) :
    ((currentBranchName? w).run ((approach w call).run state).state).outcome =
        .answered (some name) ↔
      Tells state ((perform w call).run state).spawns name := by
  have hslot := (approach_aside w call state).2
  have hlearns := currentBranchName?_run (isInside_of_approach hlisting) w
  constructor
  · intro hlearned
    cases hlearns with
    | known value slot _ outcome _ =>
      refine .kept value (hslot ▸ slot) ?_
      exact Option.some.inj (Outcome.answered.inj (outcome.symm.trans hlearned))
    | asked asking _ spawns args outcome _ =>
      have hmem : asking ∈ ((perform w call).run state).spawns := by
        rw [perform_of_isRemoval hcall, Action.spawns_bind_of_answered hlisting,
          Action.spawns_bind_of_answered hlearned, spawns]
        simp
      rw [outcome] at hlearned
      cases hverdict : Question.branch.verdict w asking.reply with
      | answered text =>
        rw [hverdict] at hlearned
        obtain rfl := Option.some.inj (Outcome.answered.inj hlearned)
        obtain ⟨completion, hreply, hsame⟩ := Question.verdict_eq_answered_iff.1 hverdict
        exact .told asking completion hmem args hreply hsame
      | failed cause | aborted fault =>
        rw [hverdict] at hlearned
        cases hlearned
    | unasked _ _ outcome _ => cases (outcome _ hlearned).1
  · intro htells
    cases htells with
    | kept value slot same =>
      rw [← hslot] at slot
      cases hlearns with
      | known value' slot' _ outcome _ =>
        obtain rfl := Option.some.inj (slot.symm.trans slot')
        rw [outcome, same]
      | asked _ slot' _ _ _ _ | unasked slot' _ _ _ => cases slot.symm.trans slot'
    | told spawn completion mem args reply same =>
      have hasked := mem_question_of_removal hcall mem args
      cases hlearns with
      | known _ _ spawns _ _ | unasked _ spawns _ _ =>
        rw [spawns] at hasked
        cases hasked
      | asked asking _ spawns _ outcome _ =>
        obtain rfl : spawn = asking := by simpa [spawns] using hasked
        have hverdict : Question.branch.verdict w spawn.reply = .answered name :=
          Question.verdict_eq_answered_iff.2 ⟨completion, reply, same⟩
        rw [outcome, hverdict]
        rfl

/-! ## Guarding the current branch -/

/-- That a branch is not the current one is known after some spawns of a call: its slot was set from
the beginning and holds another one; or git has named another one; or it has said that none is
checked out. -/
inductive Spared (state : State) (before : List Spawn) (name : String) : Prop where
  | kept (value : Value) (slot : state.cache.get .branch = some value)
      (other : value.asText ≠ name)
  | told (spawn : Spawn) (completion : Completion) (mem : spawn ∈ before)
      (args : spawn.args = Question.branch.words)
      (reply : spawn.reply.success? = some completion)
      (other : Text.strip completion.out ≠ name)
  | detached (spawn : Spawn) (mem : spawn ∈ before) (args : spawn.args = Question.branch.words)
      (reply : spawn.reply.SaysDetached)

/-- A run guards the current branch: it deletes a branch only if that is known not to be the current
one, and if git does not tell the current branch it deletes nothing and fails for that reason. -/
structure Guards (w : Workspace) (state : State) (r : Run State Answer) : Prop where
  spared : ∀ before spawn after name force, r.spawns = before ++ spawn :: after →
    spawn.Deletes name force → Spared state before name
  reported : ∀ spawn ∈ r.spawns, ∀ cause, spawn.FailsToTell w cause →
    r.outcome = .failed cause ∧
      ∀ deletion ∈ r.spawns, ∀ name force, ¬ deletion.Deletes name force

/-- A removal asks for the current branch at most once, only when its slot is unset, and it does not
fail because of what it is told. -/
lemma Removes.asks {w : Workspace} {call : Call} {state : State} {r : Run State Answer}
    (h : Removes w call state r) {spawn : Spawn} (hmem : spawn ∈ r.spawns)
    (hargs : spawn.args = Question.branch.words) :
    state.cache.get .branch = none ∧
      (∀ spawn' ∈ r.spawns, spawn'.args = Question.branch.words → spawn' = spawn) ∧
        ∀ cause, r.outcome = .failed cause → IsOther cause := by
  cases h with
  | stopped aside => exact absurd hargs (aside spawn hmem).1
  | asked first last inside aside slot learns spawns _ spares fails =>
    have hquestion : ∀ spawn' ∈ r.spawns, spawn'.args = Question.branch.words →
        spawn' ∈ ((currentBranchName? w).run inside).spawns := by
      intro spawn' hmem' hargs'
      rw [spawns] at hmem'
      rcases List.mem_append.1 hmem' with hmem' | hmem'
      · rcases List.mem_append.1 hmem' with hmem' | hmem'
        · exact absurd hargs' (aside spawn' hmem').1
        · exact hmem'
      · obtain ⟨_, _, hspares⟩ := spares spawn' hmem'
        exact absurd hargs' hspares.1
    have hspawn := hquestion spawn hmem hargs
    cases learns with
    | known _ _ none _ _ | unasked _ none _ _ => simp [none] at hspawn
    | asked asking unset once _ _ _ =>
      obtain rfl : spawn = asking := by simpa [once] using hspawn
      refine ⟨slot ▸ unset, fun spawn' hmem' hargs' => ?_, fails⟩
      simpa [once] using hquestion spawn' hmem' hargs'

/-- When git tells whether a branch is checked out and which, the branch that a removal deletes is
spared.

**Proof sketch.** Before the deletion the removal has learned something from which the branch is
different (`Removes.precedes`). What it has learned was in the slot, or is what the reply to the
question comes to. That the question was not even started is excluded, since the directory exists
when the deletion is started. -/
lemma spared_of_told {w : Workspace} {call : Call} {state : State} {before after : List Spawn}
    {spawn : Spawn} {name : String} {force : Bool}
    (htold : ∀ spawn ∈ ((perform w call).run state).spawns, ∀ cause, ¬ spawn.FailsToTell w cause)
    (hspawns : ((perform w call).run state).spawns = before ++ spawn :: after)
    (hdeletes : spawn.Deletes name force) : Spared state before name := by
  have hmem : spawn ∈ ((perform w call).run state).spawns := by simp [hspawns]
  have hremoval := isRemoval_of_deletes hmem hdeletes
  obtain ⟨first, between, inside, current, -, slot, learns, learned, hbefore, -, -, -, other⟩ :=
    (removal_run hremoval w state).precedes hspawns hdeletes
  cases learns with
  | known value known _ outcome _ =>
    refine .kept value (slot ▸ known) ?_
    rintro rfl
    exact other (Outcome.answered.inj (learned.symm.trans outcome))
  | asked asking _ once args outcome _ =>
    have hasking : asking ∈ before := by simp [hbefore, once]
    rw [outcome] at learned
    cases hverdict : Question.branch.verdict w asking.reply with
    | answered text =>
      rw [hverdict] at learned
      obtain rfl := Outcome.answered.inj learned
      obtain ⟨completion, hreply, rfl⟩ := Question.verdict_eq_answered_iff.1 hverdict
      refine .told asking completion hasking args hreply ?_
      rintro rfl
      exact other rfl
    | failed cause =>
      by_cases hcause : cause = .headDetached w.directory
      · rw [hcause] at hverdict
        exact .detached asking hasking args (Question.verdict_eq_detached_iff.1 hverdict)
      · refine absurd ⟨args, hverdict, hcause⟩ (htold asking ?_ cause)
        simp [hspawns, hasking]
    | aborted fault =>
      rw [hverdict] at learned
      cases learned
  | unasked _ _ outcome _ =>
    -- The question was kept back by a missing directory, but the deletion was started in it.
    have hversion : spawn.args ≠ Slot.version.words := by
      rw [hdeletes]
      simp [Slot.words]
    exact absurd (perform_directory w call state spawn hmem hversion).2 (outcome current learned).2

/-- A branch is not spared when git does not tell the current branch.

**Proof sketch.** The slot is unset and the question is asked only once (`Removes.asks`), so that
its reply would have to name a branch, or to say that none is checked out. -/
lemma not_spared_of_failsToTell {w : Workspace} {call : Call} {state : State}
    {r : Run State Answer} (h : Removes w call state r) {asking : Spawn} (hmem : asking ∈ r.spawns)
    {cause : Cause} (hfails : asking.FailsToTell w cause) {before : List Spawn}
    (hbefore : ∀ spawn ∈ before, spawn ∈ r.spawns) (name : String) :
    ¬ Spared state before name := by
  obtain ⟨hunset, honly, -⟩ := h.asks hmem hfails.1
  rintro (⟨value, slot, -⟩ | ⟨spawn, completion, mem, args, reply, -⟩ | ⟨spawn, mem, args, reply⟩)
  · rw [hunset] at slot
    cases slot
  · obtain rfl := honly spawn (hbefore spawn mem) args
    have hanswered :
        Question.branch.verdict w spawn.reply = .answered (Text.strip completion.out) :=
      Question.verdict_eq_answered_iff.2 ⟨completion, reply, rfl⟩
    cases hfails.2.1.symm.trans hanswered
  · obtain rfl := honly spawn (hbefore spawn mem) args
    have hdetached : Question.branch.verdict w spawn.reply = .failed (.headDetached w.directory) :=
      Question.verdict_eq_detached_iff.2 reply
    exact hfails.2.2 (Outcome.failed.inj (hfails.2.1.symm.trans hdetached))

/-- **Guarding the current branch.** A removal guards the current branch exactly unless it asks for
it and git does not tell. It then goes on as if no branch were checked out: it does not fail with
the cause of that, and any branch that it deletes may be the current one.

**Proof sketch.** If git tells, every branch that is deleted is spared (`spared_of_told`), and there
is nothing to report. If it does not tell, the removal would have to fail with a cause that is about
the question, but it fails only for other reasons (`Removes.asks`). -/
theorem guards_iff {call : Call} (h : call.isRemoval = true) (w : Workspace) (state : State) :
    let r := (perform w call).run state
    (Guards w state r ↔ ∀ spawn ∈ r.spawns, ∀ cause, ¬ spawn.FailsToTell w cause) ∧
    ∀ asking ∈ r.spawns, ∀ cause, asking.FailsToTell w cause →
      r.outcome ≠ .failed cause ∧
        ∀ before spawn after name force, r.spawns = before ++ spawn :: after →
          spawn.Deletes name force → ¬ Spared state before name := by
  intro r
  have hremoves : Removes w call state r := removal_run h w state
  have hsilent : ∀ asking ∈ r.spawns, ∀ cause, asking.FailsToTell w cause →
      r.outcome ≠ .failed cause := by
    intro asking hmem cause hfails houtcome
    obtain ⟨-, -, hother⟩ := hremoves.asks hmem hfails.1
    exact hother cause houtcome (Question.arguments?_of_verdict hfails.2.1 hfails.2.2)
  refine ⟨⟨?_, ?_⟩, ?_⟩
  · intro hguards spawn hmem cause hfails
    exact hsilent spawn hmem cause hfails (hguards.reported spawn hmem cause hfails).1
  · intro htold
    refine ⟨fun before spawn after name force => spared_of_told htold, ?_⟩
    exact fun spawn hmem cause hfails => absurd hfails (htold spawn hmem cause)
  · intro asking hmem cause hfails
    refine ⟨hsilent asking hmem cause hfails, ?_⟩
    intro before spawn after name force hspawns _
    refine not_spared_of_failsToTell hremoves hmem hfails (fun spawn' hbefore => ?_) name
    rw [hspawns]
    exact List.mem_append_left _ hbefore

/-! ## Two removals -/

/-- A script of a repository in which the branches `main` and `topic` can be deleted, and what is
replied to the question for the current branch. -/
def removing (reply : Reply) : Script :=
  (Script.succeeding [(Slot.isRepository.words, "true\n"),
    (["show-ref", "--verify", "--quiet", "refs/heads/main"], ""),
    (["show-ref", "--verify", "--quiet", "refs/heads/topic"], ""),
    (["branch", "-D", "main"], ""), (["branch", "-D", "topic"], "")]).set
      Question.branch.words [reply]

/-- To delete another branch than the one that git names guards it. -/
theorem guards_iff_told :
    let call : Call := .deleteBranch (.text "topic") true
    let state := State.initial (removing (.completed (.int 0) (.text "main\n") .absent))
    let r := (perform .plain call).run state
    call.isRemoval = true ∧ (∀ spawn ∈ r.spawns, ∀ cause, ¬ spawn.FailsToTell .plain cause) ∧
      Guards .plain state r := by
  intro call state r
  have htold : ∀ spawn ∈ r.spawns, ∀ cause, ¬ spawn.FailsToTell .plain cause := by
    rintro spawn hmem cause ⟨hargs, hverdict, -⟩
    have hanswered : ∀ spawn ∈ r.spawns, spawn.args = Question.branch.words →
        Question.branch.verdict .plain spawn.reply = .answered "main" := by decide
    cases (hanswered spawn hmem hargs).symm.trans hverdict
  exact ⟨rfl, htold, (guards_iff rfl .plain state).1.2 htold⟩

/-- The branch that is checked out is deleted by force when the question for it runs out of time. -/
theorem not_guards_of_timedOut :
    let call : Call := .deleteBranch (.text "main") true
    let state := State.initial (removing .timedOut)
    let r := (perform .plain call).run state
    r.outcome = .answered (.deleted ⟨.text "main", true⟩) ∧
      r.spawns.map Spawn.args = [Slot.isRepository.words, Question.branch.words,
        ["show-ref", "--verify", "--quiet", "refs/heads/main"], ["branch", "-D", "main"]] ∧
      ¬ Guards .plain state r := by
  intro call state r
  have hargs : r.spawns.map Spawn.args = [Slot.isRepository.words, Question.branch.words,
      ["show-ref", "--verify", "--quiet", "refs/heads/main"], ["branch", "-D", "main"]] := by decide
  have hreply : ∀ spawn ∈ r.spawns, spawn.args = Question.branch.words →
      spawn.reply = .timedOut := by decide
  refine ⟨by decide, hargs, fun hguards => ?_⟩
  obtain ⟨deletion, hdeletion, hdeletes⟩ : ∃ deletion ∈ r.spawns,
      deletion.args = ["branch", "-D", "main"] := List.mem_map.1 (by simp [hargs])
  obtain ⟨before, after, hspawns⟩ := List.append_of_mem hdeletion
  have hmem : ∀ spawn ∈ before, spawn ∈ r.spawns :=
    fun spawn hbefore => hspawns ▸ List.mem_append_left _ hbefore
  rcases hguards.spared before deletion after "main" true hspawns hdeletes with
    ⟨value, slot, -⟩ | ⟨spawn, completion, mem, args, reply, -⟩ |
    ⟨spawn, mem, args, completion, reply, -⟩
  · cases slot
  · rw [hreply spawn (hmem spawn mem) args] at reply
    cases reply
  · rw [hreply spawn (hmem spawn mem) args] at reply
    cases reply

end Session

end WorkTree
