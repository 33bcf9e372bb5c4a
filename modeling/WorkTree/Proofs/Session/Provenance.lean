import WorkTree.Proofs.Session.History

set_option relaxedAutoImplicit false
set_option autoImplicit false

/-!
# Where answers come from

A question about a repository is answered with the output of a command that succeeded: of the one
that the call itself gives, or else of the single one that was given, by whatever call, since the
slot of the question was last unset. Which of the two it is, is said with the answer.

## Main definitions

* `WorkTree.Question.successes` — the completed commands among some spawns that answer a question.
* `WorkTree.Question.Provenance` — where an answer comes from.

## Main results

* `WorkTree.Session.answer_provenance` — every answer has its provenance; only calls that ask a
  question give its command; and the command of a slot is never given while the slot is set.
-/

namespace WorkTree

namespace Question

/-! ## Successes -/

/-- The completed commands among some spawns that answer a question: those of its own command that
succeeded. -/
def successes (question : Question) (spawns : List Spawn) : List Completion :=
  spawns.filterMap fun spawn =>
    if spawn.args = question.words then spawn.reply.success? else none

/-- What there is to see for the slot of a question is the trimmed output of the successes. -/
lemma sightings_slot (question : Question) (spawns : List Spawn) :
    question.slot.sightings spawns =
      (question.successes spawns).map fun completion => .text (question.trim completion.out) := by
  rw [successes, List.map_filterMap]
  refine List.filterMap_congr fun spawn _ => ?_
  rw [Slot.words_question]
  split
  · rw [Slot.keeps_question]
  · rfl

/-- When there is one thing to see, it is the trimmed output of the only success. -/
lemma success_of_sightings {question : Question} {spawns : List Spawn} {value : Value}
    (h : question.slot.sightings spawns = [value]) :
    ∃ completion, question.successes spawns = [completion] ∧
      value.asText = question.trim completion.out := by
  rw [sightings_slot, List.map_eq_singleton_iff] at h
  obtain ⟨completion, hsuccesses, rfl⟩ := h
  exact ⟨completion, hsuccesses, rfl⟩

/-- There is a success among the spawns of some steps exactly when one of the steps has one. -/
lemma successes_spawnsIn_ne_nil {question : Question} {steps : List Step} :
    question.successes (spawnsIn steps) ≠ [] ↔
      ∃ step ∈ steps, question.successes step.run.spawns ≠ [] := by
  have hflat : question.successes (spawnsIn steps) =
      steps.flatMap fun step => question.successes step.run.spawns :=
    List.filterMap_flatMap
  rw [hflat, ne_eq, List.flatMap_eq_nil_iff]
  simp only [not_forall, exists_prop, ne_eq]

/-! ## Provenance -/

/-- Where the answer to a question comes from that a run gives after some steps: from the cache
exactly when there was a success since the slot was last unset, and then from the only one, without
the command being given again; otherwise from the success that the run itself had. -/
structure Provenance (question : Question) (steps : List Step) (r : Run Session.State Answer)
    (text : String) (cached : Bool) : Prop where
  cached_iff : cached = true ↔
    ∃ step ∈ recent question.slot steps, question.successes step.run.spawns ≠ []
  of_cached : cached = true →
    ∃ completion, question.successes (spawnsIn (recent question.slot steps)) = [completion] ∧
      text = question.trim completion.out ∧ ∀ spawn ∈ r.spawns, spawn.args ≠ question.words
  of_uncached : cached = false →
    ∃ completion, question.successes r.spawns = [completion] ∧
      text = question.trim completion.out

end Question

namespace Session

/-- A question is answered by its reading. -/
lemma read_of_answer {w : Workspace} {question : Question} {state : State} {text : String}
    {cached : Bool} (h : ((perform w question.call).run state).outcome =
      .answered (question.answer text cached)) :
    ((question.read w).run state).outcome = .answered (text, cached) := by
  rw [Question.perform_call, Action.run_map] at h
  cases houtcome : ((question.read w).run state).outcome with
  | answered found =>
    rw [houtcome] at h
    have hanswer := Outcome.answered.inj h
    rcases found with ⟨text', cached'⟩
    cases question <;> simp_all [Question.answer]
  | failed cause => rw [houtcome] at h; cases h
  | aborted fault => rw [houtcome] at h; cases h

/-- The call of a question starts what its reading starts. -/
lemma spawns_call (w : Workspace) (question : Question) (state : State) :
    ((perform w question.call).run state).spawns = ((question.read w).run state).spawns := by
  rw [Question.perform_call, Action.run_map]
  rfl

/-- A question whose slot is unset is answered with the success that the call itself has. -/
lemma answer_of_unset {w : Workspace} (question : Question) {state : State} {text : String}
    {cached : Bool} (hslot : state.cache.get question.slot = none)
    (h : ((perform w question.call).run state).outcome =
      .answered (question.answer text cached)) :
    cached = false ∧
      ∃ completion, question.successes ((perform w question.call).run state).spawns = [completion] ∧
        text = question.trim completion.out := by
  obtain ⟨hcached, value, hafter, rfl⟩ := read_answered (read_of_answer h)
  have hcall := read_keeps_tracking w question state question.slot
  rw [hslot] at hcached hcall
  rw [hafter] at hcall
  rw [spawns_call]
  exact ⟨hcached, Question.success_of_sightings hcall.sightings_eq⟩

/-- A question whose slot is set is answered with what it holds, and its command is not started. -/
lemma answer_of_set {w : Workspace} (question : Question) {state : State} {text : String}
    {cached : Bool} {value : Value} (hslot : state.cache.get question.slot = some value)
    (h : ((perform w question.call).run state).outcome =
      .answered (question.answer text cached)) :
    cached = true ∧ value.asText = text ∧
      ∀ spawn ∈ ((perform w question.call).run state).spawns, spawn.args ≠ question.words := by
  obtain ⟨hcached, kept, hafter, htext⟩ := read_answered (read_of_answer h)
  have hcall := read_keeps_tracking w question state question.slot
  rw [hslot] at hcached hcall
  obtain ⟨hkept, hothers⟩ := hcall.of_set
  obtain rfl := Option.some.inj (hafter.symm.trans hkept)
  rw [spawns_call, ← Slot.words_question]
  exact ⟨hcached, htext, hothers⟩

/-- An answer has its provenance in what happened since its slot was last unset.

**Proof sketch.** What the slot holds before the call is what there is to see among the recent
spawns (`history_follows`). It decides between the two cases (`answer_of_unset`,
`answer_of_set`). -/
lemma provenance_of_answer {w : Workspace} {script : Script} {earlier : List Call}
    {question : Question} {text : String} {cached : Bool}
    (h : ((perform w question.call).run (stateAfter w earlier (.initial script))).outcome =
      .answered (question.answer text cached)) :
    question.Provenance (history w earlier (.initial script))
      ((perform w question.call).run (stateAfter w earlier (.initial script))) text cached := by
  have hbefore := (history_follows w script earlier question.slot).sightings_eq
  cases hslot : (stateAfter w earlier (.initial script)).cache.get question.slot with
  | none =>
    obtain ⟨rfl, hfresh⟩ := answer_of_unset question hslot h
    rw [hslot, Question.sightings_slot] at hbefore
    refine ⟨?_, fun hfalse => (Bool.false_ne_true hfalse).elim, fun _ => hfresh⟩
    rw [← Question.successes_spawnsIn_ne_nil]
    simp [List.map_eq_nil_iff.1 hbefore]
  | some value =>
    obtain ⟨rfl, rfl, hothers⟩ := answer_of_set question hslot h
    rw [hslot] at hbefore
    obtain ⟨completion, hsuccess, htext⟩ := Question.success_of_sightings hbefore
    refine ⟨?_, fun _ => ⟨completion, hsuccess, htext, hothers⟩,
      fun hfalse => (Bool.false_ne_true hfalse.symm).elim⟩
    rw [← Question.successes_spawnsIn_ne_nil, hsuccess]
    simp

/-- **Answers have a provenance.** After any calls of a session that begins, a question that is
answered has its provenance in them (`Question.Provenance`); every call that had a success of a
question is one that asks it, directly or on its way; and when a call starts the command of a slot,
then the slot was unset when the call was made, and since it was last unset nothing has filled it,
neither before the call nor earlier in it.

**Proof sketch.** The first part is `provenance_of_answer`. A call that does not ask a question does
not start its command (`perform_asks`). For the last part, the slot follows its recent spawns and
then those of the call, and its own command is started only while there is nothing to see
(`Slot.Follows.sightings_eq_nil_of_own`). -/
theorem answer_provenance (w : Workspace) (script : Script) (earlier : List Call) :
    let steps := history w earlier (.initial script)
    let state := stateAfter w earlier (.initial script)
    (∀ (question : Question) (text : String) (cached : Bool),
      ((perform w question.call).run state).outcome = .answered (question.answer text cached) →
        question.Provenance steps ((perform w question.call).run state) text cached) ∧
    (∀ step ∈ steps, ∀ question : Question, question.successes step.run.spawns ≠ [] →
      step.call.Asks question) ∧
    ∀ (call : Call) (slot : Slot) (before after : List Spawn) (spawn : Spawn),
      ((perform w call).run state).spawns = before ++ spawn :: after → spawn.args = slot.words →
        state.cache.get slot = none ∧
          slot.sightings (spawnsIn (recent slot steps) ++ before) = [] := by
  intro steps state
  refine ⟨fun question text cached h => provenance_of_answer h, ?_, ?_⟩
  · intro step hmem question hsuccess
    obtain ⟨before, hrun⟩ := exists_of_mem_history hmem
    rcases em (step.call.Asks question) with hasks | hasks
    · exact hasks
    · refine absurd (List.filterMap_eq_nil_iff.2 fun spawn hspawn => ?_) hsuccess
      rw [hrun] at hspawn
      exact if_neg (perform_asks hasks before spawn hspawn)
  · intro call slot before after spawn hspawns hargs
    obtain ⟨content, hfollows, -⟩ := perform_follows w call state slot
    rw [hspawns] at hfollows
    have hhistory := (history_follows w script earlier slot).append hfollows
    rw [← List.append_assoc] at hhistory
    exact ⟨(hfollows.sightings_eq_nil_of_own hargs).1,
      (hhistory.sightings_eq_nil_of_own hargs).2⟩

/-- Changes that were asked for twice come the second time from the cache; the command for them was
given by the first call, which asks for them; and the version, not known so far, is then asked. -/
theorem answer_provenance_twice :
    let steps := history .plain [.status] (.initial .oneChange)
    let state := stateAfter .plain [.status] (.initial .oneChange)
    (((perform .plain .status).run state).outcome =
        .answered (Question.status.answer " M a.txt" true) ∧
      Question.status.Provenance steps ((perform .plain .status).run state) " M a.txt" true) ∧
    (∃ step ∈ steps, Question.status.successes step.run.spawns ≠ [] ∧
      step.call.Asks .status) ∧
    ∃ spawn, ((perform .plain .checkInstallation).run state).spawns = [spawn] ∧
      spawn.args = Slot.version.words ∧ state.cache.get .version = none := by
  obtain ⟨hanswers, hasks, hstarts⟩ := answer_provenance .plain .oneChange [.status]
  refine ⟨⟨by decide, hanswers .status _ _ (by decide)⟩,
    ⟨_, List.mem_singleton_self _, by decide, ?_⟩, _, rfl, rfl, ?_⟩
  · exact hasks _ (List.mem_singleton_self _) .status (by decide)
  · exact (hstarts .checkInstallation .version [] [] _ rfl rfl).1

end Session

end WorkTree
