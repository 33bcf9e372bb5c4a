import WorkTree.Proofs.Session.CurrentBranch
import WorkTree.Proofs.Session.Health

set_option relaxedAutoImplicit false
set_option autoImplicit false

/-!
# After a healthy report

A report is healthy only if every question was answered, and what was answered is kept. From then on
the cache answers everything that may be asked about the repository: nothing is started, nothing is
written to the cache or to the log, and every answer repeats the report, whatever git would say now.

## Main definitions

* `WorkTree.Call.inspects` — the calls that inspect the repository.
* `WorkTree.HealthReport.IsKept` — a cache holds all that a healthy report was made of.
* `WorkTree.HealthReport.Echoes` — an answer to an inspection repeats a report.

## Main results

* `WorkTree.Session.isKept_of_healthy` — a healthy report is kept.
* `WorkTree.Session.perform_of_isKept` — while a report is kept, an inspection repeats it and leaves
  everything as it is.
* `WorkTree.Session.history_echoes_report` — so do all inspections after a healthy report.
-/

namespace WorkTree

/-! ## Inspections -/

/-- The calls that inspect the repository. -/
def Call.inspects : Call → Bool
  | .checkInstallation | .isRepository | .status | .currentBranch | .remotes | .health
  | .overview => true
  | _ => false

/-- An inspection is a probe, a question, or one of the two reports. -/
lemma Call.inspects_cases {call : Call} (h : call.inspects = true) :
    call = .checkInstallation ∨ call = .isRepository ∨
      (∃ question : Question, call = question.call) ∨ call = .health ∨ call = .overview := by
  cases call with
  | checkInstallation => exact .inl rfl
  | isRepository => exact .inr (.inl rfl)
  | status => exact .inr (.inr (.inl ⟨.status, rfl⟩))
  | currentBranch => exact .inr (.inr (.inl ⟨.branch, rfl⟩))
  | remotes => exact .inr (.inr (.inl ⟨.remotes, rfl⟩))
  | health => exact .inr (.inr (.inr (.inl rfl)))
  | overview => exact .inr (.inr (.inr (.inr rfl)))
  | _ => cases h

/-- The text that a cache holds as the answer to a question. -/
def Cache.text (cache : Cache) (question : Question) : String :=
  ((cache.get question.slot).map Value.asText).getD ""

/-- What a slot holds is the text that the cache holds there. -/
lemma Cache.text_of_get {cache : Cache} {question : Question} {text : String}
    (h : cache.get question.slot = some (.text text)) : cache.text question = text := by
  rw [Cache.text, h]
  rfl

/-- A cache holds all that a healthy report was made of: that there is a repository, the version,
and an answer to every question. The report is compiled of just these. -/
structure HealthReport.IsKept (report : HealthReport) (cache : Cache) : Prop where
  inside : cache.get .isRepository = some (.bool true)
  installed : (cache.get .version).isSome = true
  answered : ∀ question : Question, cache.get question.slot = some (.text (cache.text question))
  compiled : report = .compiled true (fun question => .ok (cache.text question, true))
    (cache.get .version)

/-- An overview says what a healthy report says, with the listings that a cache holds. -/
structure Overview.Repeats (overview : Overview) (report : HealthReport) (cache : Cache) :
    Prop where
  isRepository : overview.isRepository = true
  healthy : overview.healthy = true
  error : overview.error = none
  version : overview.version = report.version
  currentBranch : overview.currentBranch = report.currentBranch
  changes : report.hasUncommittedChanges = some overview.hasUncommittedChanges
  remote : report.hasRemote = some overview.hasRemote
  status : ∃ text, overview.status = some text ∧ cache.get .status = some (.text text)
  remotes : ∃ text, overview.remotes = some text ∧ cache.get .remotes = some (.text text)

/-- An answer to an inspection repeats a healthy report: the probes say yes, a question is answered
with what the cache holds and is said to be so, a report is the same one, and an overview says the
same. -/
inductive HealthReport.Echoes (report : HealthReport) (cache : Cache) : Call → Answer → Prop where
  | installation : Echoes report cache .checkInstallation (.flag true)
  | repository : Echoes report cache .isRepository (.flag true)
  | question (question : Question) {text : String}
      (kept : cache.get question.slot = some (.text text)) :
      Echoes report cache question.call (question.answer text true)
  | health : Echoes report cache .health (.health report)
  | overview {overview : Overview} (repeats : overview.Repeats report cache) :
      Echoes report cache .overview (.overview overview)

namespace Session

/-! ## What is kept answers -/

section

variable {report : HealthReport} {state : State} (h : report.IsKept state.cache) (w : Workspace)

include h

/-- While a report is kept, the session knows that it is in a repository. -/
lemma isInside_of_isKept : state.IsInside :=
  ⟨.bool true, h.inside, rfl⟩

/-- While a report is kept, the detection says yes. -/
lemma detectRepository_of_isKept :
    (detectRepository w).run state = { outcome := .answered true, state } := by
  rw [detectRepository, run_readSlot_bind, h.inside]
  rfl

/-- While a report is kept, git counts as installed. -/
lemma checkInstallation_of_isKept :
    (checkInstallation w).run state = { outcome := .answered true, state } := by
  obtain ⟨version, hversion⟩ := Option.isSome_iff_exists.1 h.installed
  rw [checkInstallation, run_readSlot_bind, hversion]
  rfl

/-- While a report is kept, a question is answered from the cache. -/
lemma read_of_isKept (question : Question) :
    (question.read w).run state =
      { outcome := .answered (state.cache.text question, true), state } :=
  read_of_slot (isInside_of_isKept h) w (h.answered question)

/-- While a report is kept, an attempt of a question answers with what the cache holds. -/
lemma attempt_of_isKept {α : Type} {question : Question} {f : String × Bool → α}
    {action : Session α} (haction : action = f <$> question.read w) :
    (Action.attempt action).run state =
      { outcome := .answered (.ok (f (state.cache.text question, true))), state } := by
  rw [haction, Action.run_attempt, Action.run_map, read_of_isKept h w]
  rfl

/-- While a report is kept, it is made again. -/
lemma health_of_isKept : (health w).run state = { outcome := .answered report, state } := by
  have hdetect : (Action.attempt (detectRepository w)).run state =
      { outcome := .answered (.ok true), state } := by
    rw [Action.run_attempt, detectRepository_of_isKept h]
    rfl
  rw [health, Action.run_bind_of_still hdetect]
  dsimp only
  rw [Action.run_bind_of_still (checkInstallation_of_isKept h w),
    Action.run_bind_of_still (attempt_of_isKept h w (Question.currentBranch_eq w)),
    Action.run_bind_of_still (attempt_of_isKept h w (Question.status_eq w)),
    Action.run_bind_of_still (attempt_of_isKept h w (Question.remotes_eq w)), knownVersion,
    run_readSlot_bind, h.compiled]
  rfl

/-- While a report is kept, an overview repeats it. -/
lemma overview_of_isKept :
    ∃ overview : Overview, overview.Repeats report state.cache ∧
      (Session.overview w).run state = { outcome := .answered overview, state } := by
  have hreport : report.isRepository = true := by rw [h.compiled]; rfl
  rw [Session.overview, Action.run_bind_of_still (health_of_isKept h w), if_pos hreport,
    Action.run_bind_of_still (attempt_of_isKept h w (Question.status_eq w)),
    Action.run_bind_of_still (attempt_of_isKept h w (Question.remotes_eq w))]
  refine ⟨_, ⟨rfl, ?_, ?_, rfl, rfl, ?_, ?_, ?_, ?_⟩, rfl⟩
  · rw [h.compiled]; rfl
  · rw [h.compiled]; rfl
  · rw [h.compiled]; rfl
  · rw [h.compiled]; rfl
  · exact ⟨_, rfl, h.answered .status⟩
  · exact ⟨_, rfl, h.answered .remotes⟩

/-- While a report is kept, an inspection repeats it and leaves everything as it is. -/
theorem perform_of_isKept {call : Call} (hinspects : call.inspects = true) :
    ∃ answer, report.Echoes state.cache call answer ∧
      (perform w call).run state = { outcome := .answered answer, state } := by
  rcases Call.inspects_cases hinspects with rfl | rfl | ⟨question, rfl⟩ | rfl | rfl
  · refine ⟨_, .installation, ?_⟩
    rw [perform, Action.run_map, checkInstallation_of_isKept h w]
    rfl
  · have hdetect : (Action.attempt (detectRepository w)).run state =
        { outcome := .answered (.ok true), state } := by
      rw [Action.run_attempt, detectRepository_of_isKept h]
      rfl
    refine ⟨_, .repository, ?_⟩
    rw [perform, Action.run_map, isRepository, Action.run_bind_of_still hdetect]
    rfl
  · refine ⟨_, .question question (h.answered question), ?_⟩
    rw [Question.perform_call, Action.run_map, read_of_isKept h w]
    rfl
  · refine ⟨_, .health, ?_⟩
    rw [perform, Action.run_map, health_of_isKept h w]
    rfl
  · obtain ⟨overview, hrepeats, hrun⟩ := overview_of_isKept h w
    refine ⟨_, .overview hrepeats, ?_⟩
    rw [perform, Action.run_map, hrun]
    rfl

end

/-! ## A healthy report is kept -/

/-- A healthy report is kept in the cache that it leaves.

**Proof sketch.** A healthy report was compiled in a repository, of an installation that was found
and of three questions that were answered (`HealthReport.compiled_error_eq_none_iff`). The later
inquiries leave the slots of the earlier ones alone, so that every answer is in its slot in the end
(`inquiry_slot_of_answered`), and where a question has an answer, the cache says that there is a
repository. -/
lemma isKept_of_healthy {w : Workspace} {state : State} {report : HealthReport}
    (hsound : ((health w).run state).state.cache.IsSound)
    (h : ((health w).run state).outcome = .answered report) (hhealthy : report.healthy = true) :
    report.IsKept ((health w).run state).state.cache := by
  cases health_answered h with
  | outside _ _ => cases hhealthy
  | @inside installed answers yes installation readings left =>
    obtain ⟨rfl, hall⟩ :=
      HealthReport.compiled_error_eq_none_iff.1 (HealthReport.compiled_healthy_iff.1 hhealthy)
    have hanswers : ∀ question, ∃ found, answers question = .ok found := by
      intro question
      cases hanswer : answers question with
      | ok found => exact ⟨found, rfl⟩
      | error cause =>
        have hnone := hall question
        rw [hanswer] at hnone
        cases hnone
    choose found hfound using hanswers
    obtain rfl : answers = fun question => .ok (found question) := funext hfound
    rw [left] at hsound ⊢
    have hslot : ∀ question, (inquiry w state).remotes.state.cache.get question.slot =
        some (.text (found question).1) := fun question =>
      inquiry_slot_of_answered hsound (readings question)
    have htext : ∀ question, (inquiry w state).remotes.state.cache.text question =
        (found question).1 := fun question => Cache.text_of_get (hslot question)
    refine ⟨?_, ?_, fun question => ?_, ?_⟩
    · refine hsound.inside .branch ?_
      rw [Cache.isSet, hslot, Option.isSome_some]
    · exact version_isSome_iff installation
    · rw [hslot, htext]
    · rw [funext htext]
      rfl

/-! ## Histories -/

/-- While a report is kept, any inspections one after the other repeat it and leave everything as it
is. -/
lemma history_of_isKept {report : HealthReport} {state : State} (h : report.IsKept state.cache)
    (w : Workspace) {calls : List Call} (hinspect : ∀ call ∈ calls, call.inspects = true) :
    ∀ step ∈ history w calls state, ∃ answer, report.Echoes state.cache step.call answer ∧
      step.run = { outcome := .answered answer, state } := by
  induction calls with
  | nil => exact fun step hmem => nomatch hmem
  | cons call rest ih =>
    obtain ⟨answer, hechoes, hrun⟩ := perform_of_isKept h w (hinspect call List.mem_cons_self)
    intro step hmem
    rw [history] at hmem
    rcases List.mem_cons.1 hmem with rfl | hmem
    · exact ⟨answer, hechoes, hrun⟩
    · rw [hrun] at hmem
      exact ih (fun call' hcall => hinspect call' (List.mem_cons_of_mem _ hcall)) step hmem

/-- **A healthy report warms the cache completely.** After any calls of a session that begins, when
a report is healthy, then any inspections that follow it, in any order and whatever git would reply
from then on, are answered as the report says (`HealthReport.Echoes`), start nothing, write nothing
to the log, and leave the cache and the replies as they are.

**Proof sketch.** The cache is sound (`perform_isSound`), and so a healthy report is kept in it
(`isKept_of_healthy`). Each inspection then repeats it and leaves the state as it is
(`perform_of_isKept`), which carries over to the next one. -/
theorem history_echoes_report {w : Workspace} {script : Script} {calls : List Call}
    {report : HealthReport}
    (h : ((perform w .health).run (stateAfter w calls (.initial script))).outcome =
      .answered (.health report)) (hhealthy : report.healthy = true) :
    let cache :=
      ((perform w .health).run (stateAfter w calls (.initial script))).state.cache
    ∀ (replies : Script) (further : List Call), (∀ call ∈ further, call.inspects = true) →
      ∀ step ∈ history w further ⟨cache, replies⟩, ∃ answer,
        report.Echoes cache step.call answer ∧
          step.run = { outcome := .answered answer, state := ⟨cache, replies⟩, events := [] } := by
  intro cache replies further hinspect
  have hsound : cache.IsSound := perform_isSound w .health (stateAfter_isSound w script calls)
  have hkept : report.IsKept (⟨cache, replies⟩ : State).cache := by
    simp only [cache, perform, Action.run_map] at h hsound ⊢
    obtain ⟨found, hfound, heq⟩ := Outcome.map_eq_answered_iff.1 h
    obtain rfl : found = report := Answer.health.inj heq
    exact isKept_of_healthy hsound hfound hhealthy
  exact history_of_isKept hkept w hinspect

/-- A script of a clean repository without remotes, on its main branch: the texts that are kept of
the changes and of the remotes are empty, and are kept all the same. -/
def cleanMain : Script :=
  .succeeding [(Slot.isRepository.words, "true\n"), (Slot.version.words, "git version 2.43.0\n"),
    (Slot.branch.words, "main\n"), (Slot.status.words, ""), (Slot.remotes.words, "")]

/-- After a healthy report on a clean repository without remotes, an overview, a question and a
report repeat it, although git would now say no to everything. -/
theorem history_echoes_report_clean :
    let r := (perform .plain .health).run (stateAfter .plain [.status] (.initial cleanMain))
    let report : HealthReport :=
      { healthy := true, isRepository := true, version := some (.text "git version 2.43.0"),
        currentBranch := some "main", hasUncommittedChanges := some false,
        hasRemote := some false }
    r.outcome = .answered (.health report) ∧ report.healthy = true ∧
      (∀ call ∈ [Call.overview, .remotes, .health], call.inspects = true) ∧
      ∀ step ∈ history .plain [.overview, .remotes, .health] ⟨r.state.cache, .succeeding []⟩,
        ∃ answer, report.Echoes r.state.cache step.call answer ∧
          step.run = { outcome := .answered answer
                       state := ⟨r.state.cache, .succeeding []⟩
                       events := [] } := by
  intro r report
  have hanswer : r.outcome = .answered (.health report) := by decide
  have hinspect : ∀ call ∈ [Call.overview, .remotes, .health], call.inspects = true := by
    intro call hmem
    simp only [List.mem_cons, List.not_mem_nil, or_false] at hmem
    rcases hmem with rfl | rfl | rfl <;> rfl
  exact ⟨hanswer, rfl, hinspect, history_echoes_report hanswer rfl (.succeeding []) _ hinspect⟩

end Session

end WorkTree
