import WorkTree.Proofs.Session.Provenance

set_option relaxedAutoImplicit false
set_option autoImplicit false

/-!
# When the changes that are kept are out of date

What git says of the changes in a repository may be different as soon as something was staged,
committed or checked out. A call that does one of these leaves no older answer in the cache, with
one exception: a commit that stages its files and then fails keeps the answer that there was, since
a mutation unsets its slots only when it succeeds as a whole.

## Main definitions

* `WorkTree.Spawn.Confirms` — a spawn by which the changes may have become different ones.
* `WorkTree.Run.IsStale` — a run leaves an answer in the cache that is older than such a spawn.
* `WorkTree.Session.HalfCommit` — a commit that stages and is not answered.

## Main results

* `WorkTree.Session.isStale_iff` — a run is stale exactly when it is such a commit and there was an
  answer before it.
* `WorkTree.Session.isStale_of_refused_commit` — a commit that is refused after staging.
-/

namespace WorkTree

/-! ## Stale runs -/

/-- A spawn that staged, committed or checked out something: its command succeeded. -/
def Spawn.Confirms (spawn : Spawn) : Prop :=
  spawn.reply.isSuccess = true ∧
    (spawn.args.head? = some "add" ∨ spawn.args.head? = some "commit" ∨
      ∃ name, spawn.args = ["checkout", name, "--"])

/-- A run leaves an answer to the question for changes in the cache that is older than a spawn by
which they may have become different ones: the slot is set, but after that spawn the question was
not answered again. -/
def Run.IsStale {α : Type} (r : Run Session.State α) : Prop :=
  ∃ before spawn after, r.spawns = before ++ spawn :: after ∧ spawn.Confirms ∧
    (r.state.cache.get .status).isSome = true ∧
      ∀ later ∈ after, later.args = Question.status.words → later.reply.isSuccess = false

/-- A spawn that changes the changes is one of a command that begins with one of three words. -/
lemma Spawn.Confirms.verb_mem {spawn : Spawn} {command : Command} (h : spawn.Confirms)
    (hnames : command.Names spawn.args) : command.verb ∈ ["add", "commit", "checkout"] := by
  have hverb := hnames.head?
  rcases h.2 with hargs | hargs | ⟨name, hargs⟩
  · rw [hargs] at hverb
    simp [← Option.some.inj hverb]
  · rw [hargs] at hverb
    simp [← Option.some.inj hverb]
  · rw [hargs] at hverb
    simp [← Option.some.inj hverb]

/-- A spawn that changes the changes is one that may change something. -/
lemma Spawn.Confirms.alters {spawn : Spawn} (h : spawn.Confirms) : spawn.alters = true := by
  rcases h.2 with hargs | hargs | ⟨name, hargs⟩ <;> rw [Spawn.alters, hargs] <;> rfl

/-! ## Scripts of commits -/

/-- A script in which one file has changed and can be committed. -/
def committing : Script :=
  .succeeding [(Slot.isRepository.words, "true\n"), (Slot.status.words, " M a.txt\n"),
    (["add", "--all"], ""), (["commit", "-m", "Fix"], "")]

/-- A script in which one file has changed and can be staged, which git then says, but every commit
is refused. -/
def refusing : Script :=
  (Script.succeeding [(Slot.isRepository.words, "true\n"), (["add", "--all"], "")]).set
    Slot.status.words [.completed (.int 0) (.text " M a.txt\n") .absent,
      .completed (.int 0) (.text "M  a.txt\n") .absent]

namespace Session

open WorkTree.Action (Keeps)

/-- A commit that staged its files and is not answered, when the changes were known before it. -/
structure HalfCommit (call : Call) (state : State) (r : Run State Answer) : Prop where
  known : (state.cache.get .status).isSome = true
  commit : ∃ message files, call = .commit message files
  unanswered : r.outcome.isAnswered = false
  staged : ∃ spawn ∈ r.spawns, spawn.args.head? = some "add" ∧ spawn.reply.isSuccess = true

/-! ## Calls that change the changes -/

/-- To make a branch of an invalid name changes nothing. -/
lemma create_of_invalid {name : Value} (h : (BranchName.validateValue name).valid = false)
    (w : Workspace) (checkout : Flag) (state : State) :
    ∀ spawn ∈ ((perform w (.createBranch name checkout)).run state).spawns,
      spawn.alters = false := by
  have hcall : Keeps (.every fun spawn => spawn.alters = false)
      (perform w (.createBranch name checkout)) := by
    refine Keeps.map _ ((keptByQuestions_not_alters w).gate.bind fun _ => ?_)
    dsimp only
    rw [h]
    exact .fail _
  exact hcall state

/-- A branch that is made and checked out by the arguments of a checkout has the name `--`. -/
lemma name_of_createAndCheckout {name : Value} {spawn : Spawn}
    (hnames : (Command.createAndCheckout name).Names spawn.args) (h : spawn.Confirms) :
    name = .text "--" := by
  have hverb := hnames.head?
  rcases h.2 with hargs | hargs | ⟨branch, hargs⟩
  · simp [hargs, Command.verb] at hverb
  · simp [hargs, Command.verb] at hverb
  · rw [Command.Names, hargs] at hnames
    simpa [Command.args, Command.words] using (List.cons.inj (List.cons.inj hnames).2).2

/-- Only a checkout and a commit change the changes.

**Proof sketch.** Every spawn is one of a command that only asks or that the call gives
(`perform_spawns`). A branch is made and checked out at once by a command with the same first word;
its arguments are those of a checkout only for the name `--`, which is invalid. -/
lemma call_of_confirms {w : Workspace} {call : Call} {state : State} {spawn : Spawn}
    (hmem : spawn ∈ ((perform w call).run state).spawns) (h : spawn.Confirms) :
    (∃ name, call = .checkoutBranch name) ∨ ∃ message files, call = .commit message files := by
  obtain ⟨command, hnames, hgives | ⟨hreadOnly, -⟩⟩ := perform_spawns w call state spawn hmem
  · have hverb := h.verb_mem hnames
    cases hgives with
    | cleanup target name => exact absurd hverb (by simp [Command.verb])
    | @order order current alteration _ settled hcommand =>
      cases order with
      | checkOut name => exact .inl ⟨name, rfl⟩
      | commit message files => exact .inr ⟨message, files, rfl⟩
      | create name checkout =>
        obtain rfl := Option.some.inj settled
        obtain rfl := List.mem_singleton.1 hcommand
        have hname : name = .text "--" := by
          split at hnames
          · exact name_of_createAndCheckout hnames h
          · next hcheckout => exact absurd hverb (by simp [Command.verb, hcheckout])
        subst hname
        have hnone := create_of_invalid (by decide) w checkout state spawn hmem
        rw [h.alters] at hnone
        cases hnone
      | delete name force =>
        obtain rfl := Option.some.inj settled
        obtain rfl := List.mem_singleton.1 hcommand
        exact absurd hverb (by simp [Command.verb])
      | push remote branch =>
        obtain ⟨named, rfl⟩ := Order.push_of_alteration? settled
        obtain rfl := List.mem_singleton.1 hcommand
        exact absurd hverb (by simp [Command.verb])
  · have halters := h.alters
    rw [hnames.alters, hreadOnly] at halters
    cases halters

/-- A call that changes the changes is not answered only if it is a commit, and then what succeeded
is the staging. -/
lemma commit_of_not_answered {w : Workspace} {call : Call} {state : State} {spawn : Spawn}
    (hmem : spawn ∈ ((perform w call).run state).spawns) (h : spawn.Confirms)
    (hanswered : ((perform w call).run state).outcome.isAnswered = false) :
    (∃ message files, call = .commit message files) ∧ spawn.args.head? = some "add" := by
  rcases call_of_confirms hmem h with ⟨name, rfl⟩ | ⟨message, files, rfl⟩
  · obtain ⟨_, alteration, settled, command, hcommand, -⟩ :=
      made_of_not_answered (.checkOut name) hanswered hmem h.alters h.1
    obtain rfl := Option.some.inj settled
    cases hcommand
  · refine ⟨⟨message, files, rfl⟩, ?_⟩
    obtain ⟨_, alteration, settled, command, hcommand, hnames⟩ :=
      made_of_not_answered (.commit message files) hanswered hmem h.alters h.1
    obtain ⟨⟨_, scope⟩, rfl⟩ := Order.commit_of_alteration? settled
    obtain rfl := List.mem_singleton.1 hcommand
    rw [hnames.head?]
    cases scope <;> rfl

/-- What a call that changes the changes leaves in their slot: nothing if it is answered, otherwise
what was there. -/
lemma status_of_confirms {w : Workspace} {call : Call} {state : State} {spawn : Spawn}
    (hmem : spawn ∈ ((perform w call).run state).spawns) (h : spawn.Confirms) :
    ((perform w call).run state).state.cache.get .status =
        (if ((perform w call).run state).outcome.isAnswered = true then none
          else state.cache.get .status) ∧
      ∀ later ∈ ((perform w call).run state).spawns, later.args ≠ Question.status.words := by
  have hcall : ¬ call.Asks .status ∧ Slot.status ∈ call.outdates := by
    rcases call_of_confirms hmem h with ⟨name, rfl⟩ | ⟨message, files, rfl⟩
    · exact ⟨id, by simp [Call.outdates, Call.mutation?, Mutation.invalidates]⟩
    · exact ⟨id, by simp [Call.outdates, Call.mutation?, Mutation.invalidates]⟩
  refine ⟨(perform_slot_of_not_asks hcall.1 state).trans ?_, perform_asks hcall.1 state⟩
  simp [Question.slot, hcall.2]

/-- When a call changes the changes and still leaves their slot set, it is stale. -/
lemma isStale_of_set {w : Workspace} {call : Call} {state : State} {spawn : Spawn}
    (hmem : spawn ∈ ((perform w call).run state).spawns) (h : spawn.Confirms)
    (hslot : (((perform w call).run state).state.cache.get .status).isSome = true) :
    ((perform w call).run state).IsStale := by
  obtain ⟨before, after, hspawns⟩ := List.append_of_mem hmem
  refine ⟨before, spawn, after, hspawns, h, hslot, fun later hlater hargs => ?_⟩
  refine absurd hargs ((status_of_confirms hmem h).2 later ?_)
  rw [hspawns]
  simp [hlater]

/-- **Stale answers.** A call leaves an answer to the question for changes in the cache that is
older than a spawn by which they may have become different ones exactly when it is a commit that
staged its files and was not answered, and there was an answer before it. After any other call that
staged, committed or checked out something the slot is unset, and the question, if it is answered
next, is answered with what git then says.

**Proof sketch.** Only a checkout and a commit have such spawns (`call_of_confirms`). Neither asks
the question, so that the slot is unset in the end if the call was answered, and otherwise left as
it was (`status_of_confirms`). A checkout is answered if its only command succeeds, and a commit
that is not answered has at most staged (`commit_of_not_answered`). -/
theorem isStale_iff (w : Workspace) (call : Call) (state : State) :
    let r := (perform w call).run state
    (r.IsStale ↔ HalfCommit call state r) ∧
    ((∃ spawn ∈ r.spawns, spawn.Confirms) → ¬ HalfCommit call state r →
      r.state.cache.get .status = none ∧
      ∀ (script : Script) (text : String) (cached : Bool),
        ((perform w .status).run { r.state with script }).outcome =
            .answered (.status ⟨text, cached⟩) →
          cached = false ∧ ∃ completion,
            Question.status.successes ((perform w .status).run { r.state with script }).spawns =
                [completion] ∧
              text = Text.stripEnd completion.out) := by
  intro r
  have hstale : r.IsStale ↔ HalfCommit call state r := by
    constructor
    · rintro ⟨before, spawn, after, hspawns, hconfirms, hslot, -⟩
      have hmem : spawn ∈ r.spawns := by simp [hspawns]
      have hafter := (status_of_confirms hmem hconfirms).1
      cases hanswered : r.outcome.isAnswered with
      | true =>
        rw [hafter, if_pos hanswered] at hslot
        cases hslot
      | false =>
        obtain ⟨hcommit, hargs⟩ := commit_of_not_answered hmem hconfirms hanswered
        rw [hafter, hanswered] at hslot
        exact ⟨hslot, hcommit, hanswered, spawn, hmem, hargs, hconfirms.1⟩
    · rintro ⟨hknown, -, hanswered, spawn, hmem, hargs, hreply⟩
      have hconfirms : spawn.Confirms := ⟨hreply, .inl hargs⟩
      refine isStale_of_set hmem hconfirms ?_
      rw [(status_of_confirms hmem hconfirms).1, hanswered]
      exact hknown
  refine ⟨hstale, ?_⟩
  rintro ⟨spawn, hmem, hconfirms⟩ hhalf
  have hnone : r.state.cache.get .status = none := by
    rw [← Option.not_isSome_iff_eq_none]
    exact fun hslot => hhalf (hstale.1 (isStale_of_set hmem hconfirms hslot))
  refine ⟨hnone, fun script text cached hanswer => ?_⟩
  exact answer_of_unset .status hnone hanswer

/-- After a commit that was answered the changes are asked again. -/
theorem isStale_iff_committed :
    let state := stateAfter .plain [.status] (.initial committing)
    let r := (perform .plain (.commit (.text "Fix") .null)).run state
    (∃ spawn ∈ r.spawns, spawn.Confirms) ∧ ¬ HalfCommit (.commit (.text "Fix") .null) state r ∧
      ((perform .plain .status).run { r.state with script := committing }).outcome =
        .answered (.status ⟨" M a.txt", false⟩) ∧
      r.state.cache.get .status = none ∧
      ∃ completion, Question.status.successes
          ((perform .plain .status).run { r.state with script := committing }).spawns =
            [completion] ∧
        " M a.txt" = Text.stripEnd completion.out := by
  intro state r
  have hconfirms : ∃ spawn ∈ r.spawns, spawn.Confirms :=
    ⟨_, List.mem_cons_self, rfl, .inl rfl⟩
  have hhalf : ¬ HalfCommit (.commit (.text "Fix") .null) state r :=
    fun h => absurd h.unanswered (by decide)
  have hanswer : ((perform .plain .status).run { r.state with script := committing }).outcome =
      .answered (.status ⟨" M a.txt", false⟩) := by decide
  obtain ⟨hnone, hnext⟩ :=
    (isStale_iff .plain (.commit (.text "Fix") .null) state).2 hconfirms hhalf
  exact ⟨hconfirms, hhalf, hanswer, hnone, (hnext _ _ _ hanswer).2⟩

/-- A commit that is refused after it has staged everything is stale: the next answer, from the
cache, says that the file is not staged, when git would say that it is. -/
theorem isStale_of_refused_commit :
    let r := (perform .plain (.commit (.text "Fix") .null)).run
      (stateAfter .plain [.status] (.initial refusing))
    r.IsStale ∧
      ((perform .plain .status).run r.state).outcome = .answered (.status ⟨" M a.txt", true⟩) ∧
      ((perform .plain .status).run (.initial r.state.script)).outcome =
        .answered (.status ⟨"M  a.txt", false⟩) := by
  intro r
  refine ⟨⟨[], _, [_], rfl, ⟨rfl, .inl rfl⟩, by decide, ?_⟩, by decide, by decide⟩
  intro later hlater hargs
  obtain rfl := List.mem_singleton.1 hlater
  exact absurd hargs (by decide)

end Session

end WorkTree
