import WorkTree.Proofs.Session.CurrentBranch
import WorkTree.Proofs.Session.Health

set_option relaxedAutoImplicit false
set_option autoImplicit false

/-!
# Overviews and second readings

An overview shows two listings beside a report that says of each whether it is empty. The report is
made first, and then the listings are read again. A listing that was answered for the report is in
the cache by then, and the overview agrees with itself. A listing that was not answered counts as
empty in the report; when its second reading finds something, the overview shows a text that is not
empty and says that it is.

## Main definitions

* `WorkTree.Overview.Listing` — the listings that an overview shows.
* `WorkTree.Overview.AgreesOn` — what an overview says of a listing agrees with what it shows of it.
* `WorkTree.Session.rereading` — the second readings.
* `WorkTree.Session.Recovers` — a listing is not answered at first, and then something is found.

## Main results

* `WorkTree.Session.overview_answered` — how an overview comes about.
* `WorkTree.Session.overview_agreesOn_iff` — an overview agrees with itself exactly on the listings
  that do not recover, and a healthy one shows them all.
-/

namespace WorkTree

/-! ## The listings of an overview -/

namespace Overview

/-- The listings that an overview shows. -/
inductive Listing where
  | changes
  | remotes
  deriving DecidableEq, Repr

/-- The question that a listing answers. -/
def Listing.question : Listing → Question
  | .changes => .status
  | .remotes => .remotes

/-- What is given for each listing. -/
def Listing.choose {α : Type} (changes remotes : α) : Listing → α
  | .changes => changes
  | .remotes => remotes

/-- The text of a listing, if an overview shows one. -/
def text (overview : Overview) : Listing → Option String
  | .changes => overview.status
  | .remotes => overview.remotes

/-- Whether an overview says that there is something in a listing. -/
def flag (overview : Overview) : Listing → Bool
  | .changes => overview.hasUncommittedChanges
  | .remotes => overview.hasRemote

/-- What an overview says of a listing agrees with the text that it shows of it, if it shows one. -/
def AgreesOn (overview : Overview) (listing : Listing) : Prop :=
  ∀ text, overview.text listing = some text → (overview.flag listing = true ↔ text ≠ "")

/-- The overview in a repository: by the report, and by what the second readings come to. -/
def compiled (report : HealthReport) (again : Listing → Except Cause (String × Bool)) :
    Overview where
  isRepository := true
  healthy := report.healthy
  error := report.error
  version := report.version
  currentBranch := report.currentBranch
  hasUncommittedChanges := report.hasUncommittedChanges.getD false
  hasRemote := report.hasRemote.getD false
  status := Session.part? Prod.fst (again .changes)
  remotes := Session.part? Prod.fst (again .remotes)

section compiled

variable {report : HealthReport} {again : Listing → Except Cause (String × Bool)}
  {listing : Listing}

/-- An overview shows what a second reading was answered with. -/
lemma compiled_text (listing : Listing) :
    (compiled report again).text listing = Session.part? Prod.fst (again listing) := by
  cases listing <;> rfl

/-- An overview says what the report tells. -/
lemma compiled_flag_of_tells {text : String} (h : report.Tells listing.question text) :
    (compiled report again).flag listing = decide (text ≠ "") := by
  cases listing with
  | changes => exact congrArg (Option.getD · false) h
  | remotes => exact congrArg (Option.getD · false) h

/-- What the report leaves open, an overview denies. -/
lemma compiled_flag_of_open (h : report.knows listing.question = false) :
    (compiled report again).flag listing = false := by
  cases listing with
  | changes =>
    have hopen : report.hasUncommittedChanges = none := Option.not_isSome_iff_eq_none.1 (by
      rw [Bool.not_eq_true]; exact h)
    exact congrArg (Option.getD · false) hopen
  | remotes =>
    have hopen : report.hasRemote = none := Option.not_isSome_iff_eq_none.1 (by
      rw [Bool.not_eq_true]; exact h)
    exact congrArg (Option.getD · false) hopen

end compiled

end Overview

namespace Session

/-! ## Second readings -/

/-- The second readings of the listings, the first one from the state that the report left and the
next one from the state that the first one left. -/
def rereading (w : Workspace) (state : State) : Overview.Listing → Run State (String × Bool)
  | .changes => (Question.status.read w).run (inquiry w state).remotes.state
  | .remotes =>
    (Question.remotes.read w).run
      ((Question.status.read w).run (inquiry w state).remotes.state).state

/-- A listing recovers: there is a repository, the listing is not answered for the report, and its
second reading is answered with a text that is not empty. -/
structure Recovers (w : Workspace) (state : State) (listing : Overview.Listing) : Prop where
  inside : (inquiry w state).detection.outcome = .answered true
  unanswered : ((inquiry w state).reading listing.question).outcome.isAnswered = false
  found : ∃ text cached, (rereading w state listing).outcome = .answered (text, cached) ∧ text ≠ ""

/-- How an overview comes about: the detection does not say yes, and nothing is shown; or it does,
and then the overview is compiled of the report and of what the second readings come to. -/
inductive Surveys (w : Workspace) (state : State) : Overview → Prop where
  | outside {message : Option String} (no : (inquiry w state).detection.outcome ≠ .answered true) :
      Surveys w state { isRepository := false, healthy := false, error := message }
  | inside {installed : Bool} {answers : Question → Except Cause (String × Bool)}
      {version : Option Value} {again : Overview.Listing → Except Cause (String × Bool)}
      (yes : (inquiry w state).detection.outcome = .answered true)
      (readings : ∀ question, ((inquiry w state).reading question).outcome =
        .ofAnswer (answers question))
      (rereadings : ∀ listing, (rereading w state listing).outcome = .ofAnswer (again listing)) :
      Surveys w state (.compiled (.compiled installed answers version) again)

/-- The part of a second reading that an overview shows. -/
lemma part?_map {α β γ : Type} (f : β → γ) (g : α → β) (answer : Except Cause α) :
    part? f (answer.map g) = part? (fun value => f (g value)) answer := by
  cases answer <;> rfl

/-- How an overview comes about.

**Proof sketch.** The report is made first (`health_answered`). In a repository the two listings are
then read once more, and what these attempts answer is what the readings come to
(`attempt_reading`). -/
lemma overview_answered {w : Workspace} {state : State} {overview : Overview}
    (h : ((Session.overview w).run state).outcome = .answered overview) :
    Surveys w state overview := by
  unfold Session.overview at h
  obtain ⟨report, hreport, hrest⟩ := Action.answered_bind_iff.1 h
  have hmade := health_answered hreport
  generalize hleft : ((health w).run state) = r at hrest hmade
  cases hmade with
  | outside no _ =>
    obtain rfl := Outcome.answered.inj hrest
    exact .outside no
  | inside yes _ readings left =>
    change Run.outcome (Action.run (Action.attempt _ >>= _) _) = _ at hrest
    rw [left] at hrest
    obtain ⟨status, hstatus, hrest⟩ := Action.answered_bind_iff.1 hrest
    obtain ⟨changes, hchanges, rfl, hstate⟩ := attempt_reading (Question.status_eq w) hstatus
    rw [hstate] at hrest
    obtain ⟨remotes, hremotes, hrest⟩ := Action.answered_bind_iff.1 hrest
    obtain ⟨names, hnames, rfl, -⟩ := attempt_reading (Question.remotes_eq w) hremotes
    obtain rfl := Outcome.answered.inj hrest
    have hrereadings : ∀ listing, (rereading w state listing).outcome =
        .ofAnswer (Overview.Listing.choose changes names listing) := by
      intro listing
      cases listing with
      | changes => exact hchanges
      | remotes => exact hnames
    rw [part?_map, part?_map]
    exact .inside yes readings hrereadings

/-- Reading a question keeps the cache sound. -/
lemma read_isSound (w : Workspace) (question : Question) {state : State}
    (h : state.cache.IsSound) : ((question.read w).run state).state.cache.IsSound := by
  have hperform := perform_isSound w question.call h
  rw [Question.perform_call, Action.run_map] at hperform
  exact hperform

/-- In a sound cache a question that has an answer is answered from there. -/
lemma read_of_isSound {state : State} (h : state.cache.IsSound) (w : Workspace)
    {question : Question} {text : String}
    (hslot : state.cache.get question.slot = some (.text text)) :
    ((question.read w).run state).outcome = .answered (text, true) := by
  have hinside : state.cache.get .isRepository = some (.bool true) := by
    refine h.inside question ?_
    rw [Cache.isSet, hslot, Option.isSome_some]
  rw [read_of_slot ⟨.bool true, hinside, rfl⟩ w hslot]
  rfl

/-- The inquiries for a report keep the cache sound. -/
lemma inquiry_isSound (w : Workspace) {state : State} (h : state.cache.IsSound) :
    (inquiry w state).remotes.state.cache.IsSound := by
  have hdetection : (inquiry w state).detection.state.cache.IsSound := by
    have hperform := perform_isSound w .isRepository h
    rw [perform, Action.run_map, isRepository, Action.bind_run, Action.run_attempt] at hperform
    change ((detectRepository w).run state).state.cache.IsSound
    cases houtcome : ((detectRepository w).run state).outcome <;> rw [houtcome] at hperform <;>
      exact hperform
  have hinstallation : (inquiry w state).installation.state.cache.IsSound := by
    have hperform := perform_isSound w .checkInstallation hdetection
    rw [perform, Action.run_map] at hperform
    exact hperform
  exact read_isSound w .remotes (read_isSound w .status (read_isSound w .branch hinstallation))

/-- A listing that was answered for the report is answered with the same text again.

**Proof sketch.** The answer is in its slot when the report is made (`inquiry_slot_of_answered`),
and the second reading of the changes leaves the slot of the remotes alone. -/
lemma rereading_of_answered {w : Workspace} {state : State} {listing : Overview.Listing}
    {text : String} {cached : Bool} (hsound : (inquiry w state).remotes.state.cache.IsSound)
    (h : ((inquiry w state).reading listing.question).outcome = .answered (text, cached)) :
    (rereading w state listing).outcome = .answered (text, true) := by
  have hslot := inquiry_slot_of_answered hsound h
  cases listing with
  | changes => exact read_of_isSound hsound w hslot
  | remotes =>
    refine read_of_isSound (read_isSound w .status hsound) w (Eq.trans ?_ hslot)
    exact read_keeps_untouched w (by decide) (by decide) (inquiry w state).remotes.state

/-! ## Agreement -/

/-- An overview agrees with itself exactly on the listings that do not recover.

**Proof sketch.** Outside of a repository it shows nothing. Inside, a listing that was answered for
the report is answered alike again (`rereading_of_answered`), and the report tells whether it is
empty (`HealthReport.compiled_tells`). One that was not answered counts as empty, and so the
overview disagrees exactly when the second reading finds something. -/
lemma Surveys.agreesOn_iff {w : Workspace} {state : State} {overview : Overview}
    (h : Surveys w state overview) (hsound : (inquiry w state).remotes.state.cache.IsSound)
    (listing : Overview.Listing) :
    overview.AgreesOn listing ↔ ¬ Recovers w state listing := by
  cases h with
  | outside no =>
    refine iff_of_true (fun text htext => ?_) fun hrecovers => no hrecovers.inside
    cases listing <;> cases htext
  | @inside installed answers version again yes readings rereadings =>
    rw [Overview.AgreesOn, Overview.compiled_text]
    cases hanswer : answers listing.question with
    | ok found =>
      have hread : ((inquiry w state).reading listing.question).outcome =
          .answered (found.1, found.2) := by
        rw [readings, hanswer]
        rfl
      have hagain := rereadings listing
      rw [rereading_of_answered hsound hread] at hagain
      rw [Outcome.ofAnswer_eq_answered_iff.1 hagain.symm]
      have htells : (HealthReport.compiled installed answers version).Tells listing.question
          found.1 :=
        HealthReport.compiled_tells hanswer
          (hsound.proper _ _ (inquiry_slot_of_answered hsound hread))
      refine iff_of_true ?_ fun hrecovers => ?_
      · rintro _ ⟨⟩
        rw [Overview.compiled_flag_of_tells htells, decide_eq_true_iff]
      · have hnot := hrecovers.unanswered
        rw [hread] at hnot
        cases hnot
    | error cause =>
      have hopen : (HealthReport.compiled installed answers version).knows listing.question =
          false := by
        rw [HealthReport.compiled_knows, hanswer]
        rfl
      have hunanswered : ((inquiry w state).reading listing.question).outcome.isAnswered =
          false := by
        rw [readings, hanswer]
        rfl
      rw [Overview.compiled_flag_of_open hopen]
      constructor
      · rintro hagrees ⟨-, -, text, cached, hfound, hne⟩
        rw [rereadings, Outcome.ofAnswer_eq_answered_iff] at hfound
        have hshown : part? Prod.fst (again listing) = some text := by rw [hfound]; rfl
        exact absurd ((hagrees text hshown).2 hne) (by decide)
      · intro hnot text hshown
        refine iff_of_false (by decide) fun hne => hnot ⟨yes, hunanswered, text, ?_⟩
        cases hagain : again listing with
        | error cause => rw [hagain] at hshown; cases hshown
        | ok found =>
          rw [hagain] at hshown
          obtain rfl := Option.some.inj hshown
          refine ⟨found.2, ?_, hne⟩
          rw [rereadings, hagain]
          rfl

/-- A healthy overview shows every listing: every question was answered for the report, and so it is
answered again. -/
lemma Surveys.isSome_text {w : Workspace} {state : State} {overview : Overview}
    (h : Surveys w state overview) (hsound : (inquiry w state).remotes.state.cache.IsSound)
    (hhealthy : overview.healthy = true) (listing : Overview.Listing) :
    (overview.text listing).isSome = true := by
  cases h with
  | outside _ => cases hhealthy
  | @inside installed answers version again yes readings rereadings =>
    have hreport : (HealthReport.compiled installed answers version).healthy = true := hhealthy
    rw [HealthReport.compiled_healthy_iff, HealthReport.compiled_error_eq_none_iff] at hreport
    have hnone := hreport.2 listing.question
    cases hanswer : answers listing.question with
    | error cause => rw [hanswer] at hnone; cases hnone
    | ok found =>
      have hread : ((inquiry w state).reading listing.question).outcome =
          .answered (found.1, found.2) := by
        rw [readings, hanswer]
        rfl
      have hagain := rereadings listing
      rw [rereading_of_answered hsound hread] at hagain
      rw [Overview.compiled_text, Outcome.ofAnswer_eq_answered_iff.1 hagain.symm]
      rfl

/-- **An overview contradicts itself only where a listing recovers.** After any calls of a session
that begins and whatever git replies, an overview agrees with itself on a listing exactly unless
that recovers: in a repository, it was not answered for the report, and then read again, it was
answered with a text that is not empty. A healthy overview shows every listing.

**Proof sketch.** An overview is compiled of a report and of second readings (`overview_answered`),
and the cache that these are made with is sound (`inquiry_isSound`). Agreement is then a matter of
the two readings of the listing (`Surveys.agreesOn_iff`), and a healthy report has answers for all
of them (`Surveys.isSome_text`). -/
theorem overview_agreesOn_iff {w : Workspace} {script : Script} {calls : List Call}
    {overview : Overview}
    (h : ((perform w .overview).run (stateAfter w calls (.initial script))).outcome =
      .answered (.overview overview)) :
    (∀ listing, overview.AgreesOn listing ↔
      ¬ Recovers w (stateAfter w calls (.initial script)) listing) ∧
    (overview.healthy = true → ∀ listing, (overview.text listing).isSome = true) := by
  rw [perform, Action.run_map, Outcome.map_eq_answered_iff] at h
  obtain ⟨found, hfound, heq⟩ := h
  obtain rfl : found = overview := Answer.overview.inj heq
  have hsound := inquiry_isSound w (stateAfter_isSound w script calls)
  have hsurveys := overview_answered hfound
  exact ⟨hsurveys.agreesOn_iff hsound, hsurveys.isSome_text hsound⟩

/-- A script of a repository on its main branch, without remotes, where the question for changes is
not answered in time at first, and then with a text. -/
def slowStatus (text : String) : Script :=
  (Script.succeeding [(Slot.isRepository.words, "true\n"),
    (Slot.version.words, "git version 2.43.0\n"), (Slot.branch.words, "main\n"),
    (Slot.remotes.words, "")]).set Slot.status.words
      [.timedOut, .completed (.int 0) (.text text) .absent]

/-- The overview that is made with such a script when a text is found in the end. -/
def slowOverview (text : String) : Overview where
  isRepository := true
  healthy := false
  error := some "git status --porcelain timed out after 1000 ms"
  version := some (.text "git version 2.43.0")
  currentBranch := some "main"
  status := some text
  remotes := some ""

/-- When the second reading finds that there are no changes, the overview agrees with itself. -/
theorem overview_agreesOn_iff_unchanged :
    ((perform .plain .overview).run (stateAfter .plain [.isRepository]
      (.initial (slowStatus "")))).outcome = .answered (.overview (slowOverview "")) ∧
    ((∀ listing, (slowOverview "").AgreesOn listing ↔
      ¬ Recovers .plain (stateAfter .plain [.isRepository] (.initial (slowStatus ""))) listing) ∧
    ((slowOverview "").healthy = true →
      ∀ listing, ((slowOverview "").text listing).isSome = true)) ∧
    (slowOverview "").AgreesOn .changes := by
  have hanswer : ((perform .plain .overview).run (stateAfter .plain [.isRepository]
      (.initial (slowStatus "")))).outcome = .answered (.overview (slowOverview "")) := by
    decide
  refine ⟨hanswer, overview_agreesOn_iff hanswer, ?_⟩
  rintro _ ⟨⟩
  decide

/-- When it finds a change, the overview shows the change and says that there is none. -/
theorem overview_contradicts_itself :
    ((perform .plain .overview).run (.initial (slowStatus " M a.txt\n"))).outcome =
      .answered (.overview (slowOverview " M a.txt")) ∧
    (slowOverview " M a.txt").flag .changes = false ∧
    (slowOverview " M a.txt").text .changes = some " M a.txt" ∧
    ¬ (slowOverview " M a.txt").AgreesOn .changes := by
  refine ⟨by decide, rfl, rfl, fun hagrees => ?_⟩
  exact absurd ((hagrees " M a.txt" rfl).2 (by decide)) (by decide)

end Session

end WorkTree
