import WorkTree.Proofs.Session.Soundness

set_option relaxedAutoImplicit false
set_option autoImplicit false

/-!
# Reports on the health of a repository

A report is put together of five inquiries, of which each may be answered from the cache, be asked
and be answered, or fail. Whatever they come to, the report agrees with them and with the cache that
it leaves: it is healthy exactly when nothing is left open, and otherwise it names the first
failure.

## Main definitions

* `WorkTree.HealthReport.knows`, `WorkTree.HealthReport.Tells` — what a report tells of the
  questions about the repository.
* `WorkTree.HealthReport.compiled` — the report in a repository, made of the answers.
* `WorkTree.Session.Inquiry`, `WorkTree.Session.inquiry` — the runs of which a report is made.
* `WorkTree.HealthReport.IsConsistent` — a report agrees with these runs and with the cache.

## Main results

* `WorkTree.Session.health_answered` — how a report comes about.
* `WorkTree.Session.health_isConsistent` — every report is consistent.
-/

namespace WorkTree

/-! ## Outcomes of attempts -/

/-- The outcome of an action, by what an attempt of it answers. -/
def Outcome.ofAnswer {α : Type} : Except Cause α → Outcome α
  | .ok value => .answered value
  | .error cause => .failed cause

/-- The cause that an attempt answers with, if the action failed. -/
def Outcome.causeIn? {α : Type} : Except Cause α → Option Cause
  | .ok _ => none
  | .error cause => some cause

/-- An action answers exactly when an attempt of it answers with no cause. -/
lemma Outcome.isAnswered_ofAnswer {α : Type} (answer : Except Cause α) :
    (ofAnswer answer).isAnswered = (causeIn? answer).isNone := by
  cases answer <;> rfl

/-- An action answers with the value that an attempt of it answers with. -/
lemma Outcome.ofAnswer_eq_answered_iff {α : Type} {answer : Except Cause α} {value : α} :
    ofAnswer answer = .answered value ↔ answer = .ok value := by
  cases answer <;> simp [ofAnswer]

/-- An action fails with the cause that an attempt of it answers with. -/
lemma Outcome.ofAnswer_eq_failed_iff {α : Type} {answer : Except Cause α} {cause : Cause} :
    ofAnswer answer = .failed cause ↔ causeIn? answer = some cause := by
  cases answer <;> simp [ofAnswer, causeIn?]

/-- An attempt answers with what the action comes to. -/
lemma Outcome.attempted_eq_answered_iff {α : Type} {outcome : Outcome α}
    {answer : Except Cause α} :
    outcome.attempted = .answered answer ↔ outcome = .ofAnswer answer := by
  cases outcome <;> cases answer <;> simp [ofAnswer]

/-- An attempt of an action with its answer written in another way answers with what the action
comes to, written in that way. -/
lemma Outcome.exists_of_attempted_map {α β : Type} {f : α → β} {outcome : Outcome α}
    {answer : Except Cause β} (h : (outcome.map f).attempted = .answered answer) :
    ∃ found, outcome = .ofAnswer found ∧ answer = found.map f := by
  cases outcome with
  | answered value =>
    obtain rfl := Outcome.answered.inj h
    exact ⟨.ok value, rfl, rfl⟩
  | failed cause =>
    obtain rfl := Outcome.answered.inj h
    exact ⟨.error cause, rfl, rfl⟩
  | aborted fault => cases h

/-- Writing the answer in another way makes no answer. -/
lemma Outcome.map_eq_answered_iff {α β : Type} {f : α → β} {outcome : Outcome α} {result : β} :
    outcome.map f = .answered result ↔ ∃ value, outcome = .answered value ∧ f value = result := by
  cases outcome <;> simp [Outcome.map]

/-- Writing the answer in another way makes no failure. -/
lemma Outcome.map_eq_failed_iff {α β : Type} {f : α → β} {outcome : Outcome α} {cause : Cause} :
    outcome.map f = .failed cause ↔ outcome = .failed cause := by
  cases outcome <;> simp [Outcome.map]

/-! ## Reports -/

/-- The questions in the order in which a report asks them. -/
def Question.inOrder : List Question :=
  [.branch, .status, .remotes]

/-- What is given for each question. -/
def Question.choose {α : Type} (branch status remotes : α) : Question → α
  | .branch => branch
  | .status => status
  | .remotes => remotes

/-- A report asks every question. -/
lemma Question.mem_inOrder (question : Question) : question ∈ inOrder := by
  cases question <;> decide

namespace HealthReport

/-- Whether a report tells what a question is about. -/
def knows (report : HealthReport) : Question → Bool
  | .branch => report.currentBranch.isSome
  | .status => report.hasUncommittedChanges.isSome
  | .remotes => report.hasRemote.isSome

/-- A report agrees with a text that answers a question: it names the branch, and it says of a
listing whether that is empty. -/
def Tells (report : HealthReport) : Question → String → Prop
  | .branch, text => report.currentBranch = some text
  | .status, text => report.hasUncommittedChanges = some (decide (text ≠ ""))
  | .remotes, text => report.hasRemote = some (decide (text ≠ ""))

/-- The report in a repository: by whether git is installed, by the answers to the questions, and by
the version that is known. -/
def compiled (installed : Bool) (answers : Question → Except Cause (String × Bool))
    (version : Option Value) : HealthReport :=
  let error :=
    match Question.inOrder.findSome? fun question => Outcome.causeIn? (answers question) with
    | some cause => some cause.message
    | none => if installed then none else some Session.notInstalledMessage
  { healthy := error.isNone
    isRepository := true
    version
    currentBranch := Session.part? Prod.fst (answers .branch)
    hasUncommittedChanges := Session.part? (fun found => decide (found.1 ≠ "")) (answers .status)
    hasRemote := Session.part? (fun found => !(Remote.namesIn found.1).isEmpty) (answers .remotes)
    error }

section compiled

variable {installed : Bool} {answers : Question → Except Cause (String × Bool)}
  {version : Option Value}

/-- A report is healthy exactly when it names nothing. -/
lemma compiled_healthy_iff :
    (compiled installed answers version).healthy = true ↔
      (compiled installed answers version).error = none :=
  Option.isNone_iff_eq_none

/-- A report tells what a question is about exactly when that was answered. -/
lemma compiled_knows (question : Question) :
    (compiled installed answers version).knows question =
      (Outcome.causeIn? (answers question)).isNone := by
  cases question with
  | branch => rw [knows, compiled]; cases answers .branch <;> rfl
  | status => rw [knows, compiled]; cases answers .status <;> rfl
  | remotes => rw [knows, compiled]; cases answers .remotes <;> rfl

/-- A report names the first failure. -/
lemma compiled_error_of_failed {before after : List Question} {question : Question} {cause : Cause}
    (horder : Question.inOrder = before ++ question :: after)
    (hbefore : ∀ earlier ∈ before, Outcome.causeIn? (answers earlier) = none)
    (hfailed : Outcome.causeIn? (answers question) = some cause) :
    (compiled installed answers version).error = some cause.message := by
  have hfirst : (Question.inOrder.findSome? fun question =>
      Outcome.causeIn? (answers question)) = some cause :=
    List.findSome?_eq_some_iff.2 ⟨before, question, after, horder, hfailed, hbefore⟩
  rw [compiled, hfirst]

/-- When every question was answered, a report names the missing installation, if that is
missing. -/
lemma compiled_error_of_answered (h : ∀ question, Outcome.causeIn? (answers question) = none) :
    (compiled installed answers version).error =
      if installed then none else some Session.notInstalledMessage := by
  have hnone : (Question.inOrder.findSome? fun question =>
      Outcome.causeIn? (answers question)) = none :=
    List.findSome?_eq_none_iff.2 fun question _ => h question
  rw [compiled, hnone]

/-- A report names nothing exactly when git is installed and every question was answered. -/
lemma compiled_error_eq_none_iff :
    (compiled installed answers version).error = none ↔
      installed = true ∧ ∀ question, Outcome.causeIn? (answers question) = none := by
  constructor
  · intro hnone
    cases hfirst : Question.inOrder.findSome? fun question =>
        Outcome.causeIn? (answers question) with
    | some cause =>
      obtain ⟨before, question, after, horder, hfailed, hbefore⟩ :=
        List.findSome?_eq_some_iff.1 hfirst
      rw [compiled_error_of_failed horder hbefore hfailed] at hnone
      cases hnone
    | none =>
      have hall : ∀ question, Outcome.causeIn? (answers question) = none := fun question =>
        List.findSome?_eq_none_iff.1 hfirst question question.mem_inOrder
      rw [compiled_error_of_answered hall] at hnone
      cases installed with
      | true => exact ⟨rfl, hall⟩
      | false => cases hnone
  · rintro ⟨rfl, hall⟩
    rw [compiled_error_of_answered hall, if_pos rfl]

/-- A report is healthy exactly when nothing is left open in it, if the version is known exactly
when git is installed. -/
lemma compiled_complete_iff (hversion : version.isSome = installed) :
    let report := compiled installed answers version
    report.healthy = true ↔ report.isRepository = true ∧ report.version.isSome = true ∧
      report.currentBranch.isSome = true ∧ report.hasUncommittedChanges.isSome = true ∧
        report.hasRemote.isSome = true := by
  intro report
  have hknows : ∀ question, report.knows question = true ↔
      Outcome.causeIn? (answers question) = none := by
    intro question
    rw [compiled_knows, Option.isNone_iff_eq_none]
  have hbranch := hknows .branch
  have hstatus := hknows .status
  have hremotes := hknows .remotes
  rw [compiled_healthy_iff, compiled_error_eq_none_iff]
  constructor
  · rintro ⟨hinstalled, hall⟩
    exact ⟨rfl, hversion.trans hinstalled, hbranch.2 (hall .branch), hstatus.2 (hall .status),
      hremotes.2 (hall .remotes)⟩
  · rintro ⟨-, hknown, hname, hchanges, hremote⟩
    refine ⟨hversion.symm.trans hknown, fun question => ?_⟩
    cases question with
    | branch => exact hbranch.1 hname
    | status => exact hstatus.1 hchanges
    | remotes => exact hremotes.1 hremote

/-- A report agrees with a text that was the answer to a question. -/
lemma compiled_tells {question : Question} {text : String} {cached : Bool}
    (h : answers question = .ok (text, cached)) (hends : question.slot.Holds (.text text)) :
    (compiled installed answers version).Tells question text := by
  cases question with
  | branch => rw [Tells, compiled, h]; rfl
  | status => rw [Tells, compiled, h]; rfl
  | remotes =>
    have hnames : (!(Remote.namesIn text).isEmpty) = decide (text ≠ "") := by
      cases hends with
      | remotes ending =>
        have hiff := Remote.namesIn_ne_nil_iff ending
        rw [Bool.eq_iff_iff, decide_eq_true_iff, ← hiff]
        simp
    rw [Tells, compiled, h]
    exact congrArg some hnames

end compiled

end HealthReport

namespace Session

open WorkTree.Action (Keeps FailsWith)

/-! ## The runs of which a report is made -/

/-- The runs of which a report in a repository is made. -/
structure Inquiry where
  detection : Run State Bool
  installation : Run State Bool
  branch : Run State (String × Bool)
  status : Run State (String × Bool)
  remotes : Run State (String × Bool)

/-- The run of a question in an inquiry. -/
def Inquiry.reading (inquiry : Inquiry) : Question → Run State (String × Bool) :=
  Question.choose inquiry.branch inquiry.status inquiry.remotes

/-- The detection of the repository, the check of the installation and the three questions, each run
from the state that the one before it left. -/
def inquiry (w : Workspace) (state : State) : Inquiry :=
  let detection := (detectRepository w).run state
  let installation := (checkInstallation w).run detection.state
  let branch := (Question.branch.read w).run installation.state
  let status := (Question.status.read w).run branch.state
  let remotes := (Question.remotes.read w).run status.state
  { detection, installation, branch, status, remotes }

/-- An attempt of a question answers with what its reading comes to, and leaves the same state. -/
lemma attempt_reading {α : Type} {w : Workspace} {question : Question} {f : String × Bool → α}
    {action : Session α} (haction : action = f <$> question.read w) {state : State}
    {answer : Except Cause α} (h : ((Action.attempt action).run state).outcome = .answered answer) :
    ∃ found, ((question.read w).run state).outcome = .ofAnswer found ∧ answer = found.map f ∧
      ((Action.attempt action).run state).state = ((question.read w).run state).state := by
  subst haction
  rw [Action.run_attempt, Action.run_map] at h ⊢
  obtain ⟨found, houtcome, hanswer⟩ := Outcome.exists_of_attempted_map h
  exact ⟨found, houtcome, hanswer, rfl⟩

/-- How a report comes about: the detection does not say yes, and then nothing more is done; or it
does, and then the report is compiled of what the installation and the three questions come to, and
the state is the one that the last of these leaves. -/
inductive Reports (w : Workspace) (state : State) (r : Run State HealthReport) : HealthReport → Prop
    where
  | outside {message : String} (no : (inquiry w state).detection.outcome ≠ .answered true)
      (spawns : r.spawns = (inquiry w state).detection.spawns) :
      Reports w state r
        { healthy := false, isRepository := false, error := some message }
  | inside {installed : Bool} {answers : Question → Except Cause (String × Bool)}
      (yes : (inquiry w state).detection.outcome = .answered true)
      (installation : (inquiry w state).installation.outcome = .answered installed)
      (readings : ∀ question, ((inquiry w state).reading question).outcome =
        .ofAnswer (answers question))
      (left : r.state = (inquiry w state).remotes.state) :
      Reports w state r (.compiled installed answers (r.state.cache.get .version))

/-- What attempts of the three questions come to is compiled. -/
lemma compiled_of_attempts (installed : Bool) (branch status remotes : Except Cause (String × Bool))
    (version : Option Value) {branchInfo : Except Cause BranchInfo}
    {statusInfo : Except Cause StatusInfo} {remotesInfo : Except Cause RemotesInfo}
    (hbranch : branchInfo = branch.map fun found => ⟨found.1, found.2⟩)
    (hstatus : statusInfo = status.map fun found => ⟨found.1, found.2⟩)
    (hremotes : remotesInfo = remotes.map fun found => ⟨found.1, found.2⟩) :
    (let error :=
       match firstError? [ignoreAnswer branchInfo, ignoreAnswer statusInfo,
         ignoreAnswer remotesInfo] with
       | some cause => some cause.message
       | none => if installed then none else some notInstalledMessage
     ({ healthy := error.isNone
        isRepository := true
        version
        currentBranch := part? BranchInfo.branch branchInfo
        hasUncommittedChanges := part? StatusInfo.hasChanges statusInfo
        hasRemote := part? (fun info => !info.names.isEmpty) remotesInfo
        error } : HealthReport)) =
      .compiled installed (Question.choose branch status remotes) version := by
  subst hbranch hstatus hremotes
  cases branch <;> cases status <;> cases remotes <;> rfl

/-- How a report comes about. -/
theorem health_answered {w : Workspace} {state : State} {report : HealthReport}
    (h : ((health w).run state).outcome = .answered report) :
    Reports w state ((health w).run state) report := by
  unfold health at h ⊢
  obtain ⟨detected, hdetected, hrest⟩ := Action.answered_bind_iff.1 h
  have hdetection : (inquiry w state).detection.outcome = .ofAnswer detected :=
    Outcome.attempted_eq_answered_iff.1 hdetected
  match detected with
  | .error cause =>
    obtain rfl := Outcome.answered.inj hrest
    refine .outside (by rw [hdetection]; exact nofun) ?_
    rw [Action.spawns_bind_of_answered hdetected]
    exact List.append_nil _
  | .ok false =>
    obtain rfl := Outcome.answered.inj hrest
    refine .outside (by rw [hdetection]; exact nofun) ?_
    rw [Action.spawns_bind_of_answered hdetected]
    exact List.append_nil _
  | .ok true =>
    obtain ⟨installed, hinstalled, hrest⟩ := Action.answered_bind_iff.1 hrest
    obtain ⟨branch, hbranch, hrest⟩ := Action.answered_bind_iff.1 hrest
    obtain ⟨foundBranch, hfirst, hbranchInfo, hfirstState⟩ :=
      attempt_reading (Question.currentBranch_eq w) hbranch
    rw [hfirstState] at hrest
    obtain ⟨status, hstatus, hrest⟩ := Action.answered_bind_iff.1 hrest
    obtain ⟨foundStatus, hsecond, hstatusInfo, hsecondState⟩ :=
      attempt_reading (Question.status_eq w) hstatus
    rw [hsecondState] at hrest
    obtain ⟨remotes, hremotes, hrest⟩ := Action.answered_bind_iff.1 hrest
    obtain ⟨foundRemotes, hthird, hremotesInfo, hthirdState⟩ :=
      attempt_reading (Question.remotes_eq w) hremotes
    rw [hthirdState] at hrest
    have hcompiled := compiled_of_attempts installed foundBranch foundStatus foundRemotes
      ((inquiry w state).remotes.state.cache.get .version) hbranchInfo hstatusInfo hremotesInfo
    have hreport : HealthReport.compiled installed
        (Question.choose foundBranch foundStatus foundRemotes)
        ((inquiry w state).remotes.state.cache.get .version) = report :=
      hcompiled.symm.trans (Outcome.answered.inj hrest)
    have hleft : ((health w).run state).state = (inquiry w state).remotes.state := by
      unfold health
      refine (Action.state_bind_of_answered hdetected _).trans ?_
      refine (Action.state_bind_of_answered hinstalled _).trans ?_
      refine (Action.state_bind_of_answered hbranch _).trans ?_
      rw [hfirstState]
      refine (Action.state_bind_of_answered hstatus _).trans ?_
      rw [hsecondState]
      refine (Action.state_bind_of_answered hremotes _).trans ?_
      exact hthirdState
    rw [← hreport, ← hleft]
    refine .inside hdetection hinstalled (fun question => ?_) hleft
    cases question with
    | branch => exact hfirst
    | status => exact hsecond
    | remotes => exact hthird

/-- Checking the installation never fails. -/
lemma checkInstallation_failsWith (w : Workspace) :
    FailsWith (fun _ => False) (checkInstallation w) := by
  refine FailsWith.bind (fun _ _ h => nomatch h) fun content => ?_
  cases content with
  | some value => exact .pure true
  | none =>
    refine (FailsWith.attempt _).bind fun answer => ?_
    cases answer with
    | error cause => exact (FailsWith.log _ _ _).bind fun _ => .pure false
    | ok output =>
      dsimp only
      split
      · exact (FailsWith.modify _).bind fun _ => .pure true
      · exact (FailsWith.log _ _ _).bind fun _ => .pure false

/-- A report never fails. -/
lemma health_failsWith (w : Workspace) : FailsWith (fun _ => False) (health w) := by
  refine (FailsWith.attempt _).bind fun detected => ?_
  match detected with
  | .error cause => exact .pure _
  | .ok false => exact .pure _
  | .ok true =>
    refine (checkInstallation_failsWith w).bind fun installed => ?_
    refine (FailsWith.attempt _).bind fun branch => ?_
    refine (FailsWith.attempt _).bind fun status => ?_
    refine (FailsWith.attempt _).bind fun remotes => ?_
    exact FailsWith.bind (fun _ _ h => nomatch h) fun version => .pure _

/-! ## What the inquiries leave in the cache -/

/-- Git counts as installed exactly when its version is then known. -/
lemma checkInstallation_answered {w : Workspace} {state : State} {installed : Bool}
    (h : ((checkInstallation w).run state).outcome = .answered installed) :
    installed = (((checkInstallation w).run state).state.cache.get .version).isSome := by
  unfold checkInstallation at h ⊢
  rw [run_readSlot_bind] at h ⊢
  cases hslot : state.cache.get .version with
  | some value =>
    rw [hslot] at h
    obtain rfl := Outcome.answered.inj h
    exact (congrArg Option.isSome hslot).symm
  | none =>
    rw [hslot] at h
    dsimp only at h ⊢
    obtain ⟨answer, hanswer, hrest⟩ := Action.answered_bind_iff.1 h
    rw [Action.state_bind_of_answered hanswer]
    have hkept : ((gitChecked w .version).run state).state.cache.get .version = none :=
      (congrArg (Cache.get · .version) (gitChecked_cache w .version state)).trans hslot
    cases answer with
    | error cause =>
      obtain rfl := Outcome.answered.inj hrest
      exact (congrArg Option.isSome hkept).symm
    | ok output =>
      dsimp only at hrest ⊢
      split at hrest
      · next hlead =>
        obtain rfl := Outcome.answered.inj hrest
        rw [if_pos hlead]
        rfl
      · next hlead =>
        obtain rfl := Outcome.answered.inj hrest
        rw [if_neg hlead]
        exact (congrArg Option.isSome hkept).symm

/-- Reading a question writes to no slot but its own and that of the detection. -/
lemma read_keeps_untouched (w : Workspace) {question : Question} {slot : Slot}
    (hdetection : slot ≠ .isRepository) (hown : slot ≠ question.slot) :
    Keeps (untouched slot) (question.read w) := by
  have hwrite : ∀ value, Keeps (untouched slot) (writeSlot question.slot value) := fun _ state =>
    (Cache.get_write state.cache question.slot slot _).trans (if_neg hown)
  exact read_keeps (requireRepository_keeps_untouched w hdetection) hwrite fun _ => rfl

/-- The slot of a question holds in the end what its own reading left in it. -/
lemma inquiry_slot (w : Workspace) (state : State) (question : Question) :
    (inquiry w state).remotes.state.cache.get question.slot =
      ((inquiry w state).reading question).state.cache.get question.slot := by
  cases question with
  | branch =>
    have hstatus : (inquiry w state).status.state.cache.get .branch =
        (inquiry w state).branch.state.cache.get .branch :=
      read_keeps_untouched w (by decide) (by decide) (inquiry w state).branch.state
    have hremotes : (inquiry w state).remotes.state.cache.get .branch =
        (inquiry w state).status.state.cache.get .branch :=
      read_keeps_untouched w (by decide) (by decide) (inquiry w state).status.state
    exact hremotes.trans hstatus
  | status => exact read_keeps_untouched w (by decide) (by decide) (inquiry w state).status.state
  | remotes => rfl

/-- The version that is known in the end is the one that the check of the installation left. -/
lemma inquiry_version (w : Workspace) (state : State) :
    (inquiry w state).remotes.state.cache.get .version =
      (inquiry w state).installation.state.cache.get .version := by
  have hbranch : (inquiry w state).branch.state.cache.get .version =
      (inquiry w state).installation.state.cache.get .version :=
    read_keeps_untouched w (by decide) (by decide) (inquiry w state).installation.state
  have hstatus : (inquiry w state).status.state.cache.get .version =
      (inquiry w state).branch.state.cache.get .version :=
    read_keeps_untouched w (by decide) (by decide) (inquiry w state).branch.state
  have hremotes : (inquiry w state).remotes.state.cache.get .version =
      (inquiry w state).status.state.cache.get .version :=
    read_keeps_untouched w (by decide) (by decide) (inquiry w state).status.state
  exact hremotes.trans (hstatus.trans hbranch)

/-- A question that was answered has its answer in its slot in the end, if what the slot holds then
is sound. -/
lemma inquiry_slot_of_answered {w : Workspace} {state : State} {question : Question} {text : String}
    {cached : Bool} (hsound : (inquiry w state).remotes.state.cache.IsSound)
    (h : ((inquiry w state).reading question).outcome = .answered (text, cached)) :
    (inquiry w state).remotes.state.cache.get question.slot = some (.text text) := by
  have hread : ∃ before, (inquiry w state).reading question = (question.read w).run before := by
    cases question <;> exact ⟨_, rfl⟩
  obtain ⟨before, hbefore⟩ := hread
  rw [hbefore] at h
  obtain ⟨-, value, hslot, htext⟩ := read_answered h
  have hend : (inquiry w state).remotes.state.cache.get question.slot = some value := by
    rw [inquiry_slot, hbefore]
    exact hslot
  have hholds : question.slot.Holds value := hsound.proper question.slot value hend
  rw [hend, ← htext, ← hholds.eq_text]

end Session

/-! ## Consistency -/

namespace HealthReport

/-- What a report in a repository says agrees with the inquiries that it is made of and with the
cache that it leaves. A question that was answered is in its slot, and the report tells what it is
about; a question is left open only if it failed. The version is the one in its slot, and it is
known exactly when git counted as installed. The first question that failed is named, and only if
none did, the missing installation. -/
structure Agrees (report : HealthReport) (inquiry : Session.Inquiry) (cache : Cache) : Prop where
  knows_iff : ∀ question, report.knows question = true ↔
    (inquiry.reading question).outcome.isAnswered = true
  told : ∀ question text cached,
    (inquiry.reading question).outcome = .answered (text, cached) →
      cache.get question.slot = some (.text text) ∧ report.Tells question text
  failed : ∀ question, report.knows question = false →
    ∃ cause, (inquiry.reading question).outcome = .failed cause
  version_eq : report.version = cache.get .version
  installed_iff : report.version.isSome = true ↔ inquiry.installation.outcome = .answered true
  error_of_failed : ∀ before question after cause,
    Question.inOrder = before ++ question :: after →
      (∀ earlier ∈ before, (inquiry.reading earlier).outcome.isAnswered = true) →
        (inquiry.reading question).outcome = .failed cause → report.error = some cause.message
  error_of_answered : (∀ question, (inquiry.reading question).outcome.isAnswered = true) →
    inquiry.installation.outcome = .answered false →
      report.error = some Session.notInstalledMessage

/-- A report is consistent: it is healthy exactly when it names no failure, and exactly when there
is a repository and nothing is left open. Without a repository everything is left open, and nothing
but the detection was started; in a repository the report agrees with what was inquired. -/
structure IsConsistent (report : HealthReport) (inquiry : Session.Inquiry)
    (r : Run Session.State Answer) : Prop where
  healthy_iff : report.healthy = true ↔ report.error = none
  complete_iff : report.healthy = true ↔ report.isRepository = true ∧
    report.version.isSome = true ∧ report.currentBranch.isSome = true ∧
      report.hasUncommittedChanges.isSome = true ∧ report.hasRemote.isSome = true
  repository_iff : report.isRepository = true ↔ inquiry.detection.outcome = .answered true
  outside : report.isRepository = false → report.version = none ∧ report.currentBranch = none ∧
    report.hasUncommittedChanges = none ∧ report.hasRemote = none ∧
      ∀ spawn ∈ r.spawns, spawn.args = Slot.isRepository.words
  inside : report.isRepository = true → report.Agrees inquiry r.state.cache

end HealthReport

namespace Session

section compiled

variable {w : Workspace} {state : State} {installed : Bool}
  {answers : Question → Except Cause (String × Bool)}

/-- A question was answered exactly when no cause stands in the place of the answer. -/
lemma causeIn?_eq_none_iff
    (hreadings : ∀ question, ((inquiry w state).reading question).outcome =
      .ofAnswer (answers question)) (question : Question) :
    Outcome.causeIn? (answers question) = none ↔
      ((inquiry w state).reading question).outcome.isAnswered = true := by
  rw [hreadings, Outcome.isAnswered_ofAnswer, Option.isNone_iff_eq_none]

/-- The version is known in the end exactly when git counted as installed. -/
lemma version_isSome_iff
    (hinstallation : (inquiry w state).installation.outcome = .answered installed) :
    ((inquiry w state).remotes.state.cache.get .version).isSome = installed := by
  rw [inquiry_version]
  exact (checkInstallation_answered hinstallation).symm

/-- A report that was compiled agrees with what was inquired. -/
lemma compiled_agrees
    (hinstallation : (inquiry w state).installation.outcome = .answered installed)
    (hreadings : ∀ question, ((inquiry w state).reading question).outcome =
      .ofAnswer (answers question))
    (hsound : (inquiry w state).remotes.state.cache.IsSound) :
    (HealthReport.compiled installed answers
      ((inquiry w state).remotes.state.cache.get .version)).Agrees (inquiry w state)
        (inquiry w state).remotes.state.cache where
  knows_iff question := by
    rw [HealthReport.compiled_knows, Option.isNone_iff_eq_none]
    exact causeIn?_eq_none_iff hreadings question
  told question text cached hanswer := by
    have hslot := inquiry_slot_of_answered hsound hanswer
    rw [hreadings, Outcome.ofAnswer_eq_answered_iff] at hanswer
    exact ⟨hslot, HealthReport.compiled_tells hanswer (hsound.proper _ _ hslot)⟩
  failed question hopen := by
    rw [HealthReport.compiled_knows, Option.isNone_eq_false_iff] at hopen
    obtain ⟨cause, hcause⟩ := Option.isSome_iff_exists.1 hopen
    refine ⟨cause, ?_⟩
    rw [hreadings, Outcome.ofAnswer_eq_failed_iff]
    exact hcause
  version_eq := rfl
  installed_iff := by
    rw [hinstallation, Outcome.answered.injEq]
    exact Bool.eq_iff_iff.1 (version_isSome_iff hinstallation) |>.trans Iff.rfl
  error_of_failed before question after cause horder hbefore hfailed := by
    rw [hreadings, Outcome.ofAnswer_eq_failed_iff] at hfailed
    refine HealthReport.compiled_error_of_failed horder (fun earlier hmem => ?_) hfailed
    exact (causeIn?_eq_none_iff hreadings earlier).2 (hbefore earlier hmem)
  error_of_answered hall hmissing := by
    obtain rfl : installed = false := Outcome.answered.inj (hinstallation.symm.trans hmissing)
    refine HealthReport.compiled_error_of_answered fun question => ?_
    exact (causeIn?_eq_none_iff hreadings question).2 (hall question)

end compiled

/-- **A report is consistent.** After any calls of a session that begins, a report does not fail,
and unless it is ended by a fault it is consistent with what is inquired for it, with the cache that
it leaves and with what was started (`HealthReport.IsConsistent`).

**Proof sketch.** Unless the detection says yes the report is at its end (`health_answered`), and
only the detection was started. Otherwise it is compiled of the answers. The later inquiries leave
the slots of the earlier ones alone, so that every answer is in its slot in the end
(`inquiry_slot`), and the version is known exactly when git counted as installed
(`version_isSome_iff`). The cache is sound in the end (`perform_isSound`); hence the names of
remotes are none exactly when the text is empty. -/
theorem health_isConsistent (w : Workspace) (script : Script) (calls : List Call) :
    let state := stateAfter w calls (.initial script)
    let r := (perform w .health).run state
    (∀ cause, r.outcome ≠ .failed cause) ∧
      ∀ report, r.outcome = .answered (.health report) →
        report.IsConsistent (inquiry w state) r := by
  intro state r
  have hsound : r.state.cache.IsSound :=
    perform_isSound w .health (stateAfter_isSound w script calls)
  have hrun : r = _ := Action.run_map Answer.health (health w) state
  have houtcome : r.outcome = ((health w).run state).outcome.map .health := by rw [hrun]
  have hstate : r.state = ((health w).run state).state := by rw [hrun]
  have hspawns : r.spawns = ((health w).run state).spawns := by rw [hrun]; rfl
  constructor
  · intro cause hfailed
    rw [houtcome, Outcome.map_eq_failed_iff] at hfailed
    exact health_failsWith w state cause hfailed
  · intro report hanswer
    rw [houtcome, Outcome.map_eq_answered_iff] at hanswer
    obtain ⟨found, hfound, heq⟩ := hanswer
    obtain rfl : found = report := Answer.health.inj heq
    cases health_answered hfound with
    | outside no spawns =>
      refine ⟨by simp, by simp, by simp [no], fun _ => ⟨rfl, rfl, rfl, rfl, ?_⟩, nofun⟩
      rw [hspawns, spawns]
      exact detectRepository_spawns w state
    | @inside installed answers yes installation readings left =>
      rw [left] at hstate
      rw [hstate] at hsound
      have hversion := version_isSome_iff installation
      rw [left]
      refine ⟨HealthReport.compiled_healthy_iff, HealthReport.compiled_complete_iff hversion,
        iff_of_true rfl yes, nofun, fun _ => ?_⟩
      rw [hstate]
      exact compiled_agrees installation readings hsound

/-- A repository in which one file has changed and no branch is checked out, with a git that gives
no version: what could be found out is told, and the first question that failed is named. -/
theorem health_isConsistent_detached :
    let state := stateAfter .plain [.status] (.initial .oneChange)
    let r := (perform .plain .health).run state
    let report : HealthReport :=
      { healthy := false, isRepository := true, hasUncommittedChanges := some true,
        error := some "HEAD is detached" }
    r.outcome = .answered (.health report) ∧
      report.IsConsistent (inquiry .plain state) r := by
  intro state r report
  have hanswer : r.outcome = .answered (.health report) := by decide
  exact ⟨hanswer, (health_isConsistent .plain .oneChange [.status]).2 report hanswer⟩

end Session

end WorkTree
