import WorkTree.Proofs.Session.History
import WorkTree.Proofs.Session.Mirrors

set_option relaxedAutoImplicit false
set_option autoImplicit false

/-!
# The cache is transparent

As long as git answers the same arguments always alike, nobody can tell from what a session does
whether it has a history: every call comes to what it would come to as the first call of a session,
save that an answer says that it was in the cache, and that commands are left out whose answer is
known. Only the question for what the cache holds tells the difference.

## Main definitions

* `WorkTree.Answer.uncached` — an answer that does not say whether it was in the cache.
* `WorkTree.Session.replying` — every spawn has the reply that git always gives.

## Main results

* `WorkTree.Session.history_faithful` — the cache holds what git would answer.
* `WorkTree.Session.cache_transparent` — every call comes to what it comes to in a fresh session.
-/

namespace WorkTree

/-- An answer that does not say whether it was in the cache. -/
def Answer.uncached : Answer → Answer
  | .status info => .status { info with cached := false }
  | .branch info => .branch { info with cached := false }
  | .remotes info => .remotes { info with cached := false }
  | answer => answer

namespace AttemptRel

variable {α β : Type} {V : α → α → Prop} {answer answer' : Except Cause α}

/-- Parts of related answers are the same when what they are parts of is related. -/
lemma part?_eq (h : AttemptRel V answer answer') {f : α → β}
    (hf : ∀ value value', V value value' → f value = f value') :
    Session.part? f answer = Session.part? f answer' := by
  cases h with
  | ok hV => exact congrArg some (hf _ _ hV)
  | error cause => rfl

/-- Related answers fail alike. -/
lemma ignoreAnswer_eq (h : AttemptRel V answer answer') :
    Session.ignoreAnswer answer = Session.ignoreAnswer answer' := by
  cases h <;> rfl

end AttemptRel

namespace Session

namespace Mirrors

variable {w : Workspace} {settled : List Slot}

/-! ## Questions -/

/-- Detecting the repository comes to the same. -/
lemma detect : Mirrors w settled settled Eq (detectRepository w) (detectRepository w) := by
  refine weaken (asking .isRepository Value.truthy Value.truthy (fun _ => rfl)
    (congrArg (Action.attempt · >>= _) (git_eq_bind_orFail w .insideWorkTree)) ?_ ?_
    (fun _ => rfl) fun _ => rfl) (List.subset_cons_self _ _)
  · intro completion value hreading
    obtain rfl := Option.some.inj hreading
    exact ⟨rfl, rfl⟩
  · intro answer hnone
    cases answer with
    | ok completion => cases hnone
    | error cause => exact (log _ _).bind_eq fun _ => fail cause

/-- Checking the installation comes to the same, and leaves the same version. -/
lemma installation : Mirrors w settled (.version :: settled) Eq (checkInstallation w)
    (checkInstallation w) := by
  refine asking .version (fun _ => true) (fun _ => true) (fun _ => rfl)
    (congrArg (Action.attempt · >>= _) (gitChecked_eq w .version)) ?_ ?_ (fun _ => rfl)
    fun _ => rfl
  · intro completion value hreading
    simp only [Slot.reading] at hreading
    split at hreading
    · next hboth =>
      obtain rfl := Option.some.inj hreading
      refine ⟨rfl, ?_⟩
      simp only [accept, hboth.1, hboth.2, if_true]
    · cases hreading
  · intro answer hnone
    cases answer with
    | error cause => exact (log _ _).bind_eq fun _ => pure rfl
    | ok completion =>
      change Slot.reading .version completion = none at hnone
      by_cases hok : completion.ok = true
      · have haccept : (Except.ok completion >>= accept w .version) = .ok completion.out :=
          if_pos hok
        have hlead : ¬ versionLead.isPrefixOf completion.out.toList = true := by
          intro hlead
          simp [Slot.reading, hok, hlead] at hnone
        rw [haccept]
        simp only [hlead]
        exact (log _ _).bind_eq fun _ => pure rfl
      · have haccept : (Except.ok completion >>= accept w .version) =
            .error (.exited w.directory (wordsOf .version) completion) := if_neg hok
        rw [haccept]
        exact (log _ _).bind_eq fun _ => pure rfl

/-- The gate comes to the same. -/
lemma gate : Mirrors w settled settled Eq (requireRepository w) (requireRepository w) :=
  detect.bind_eq fun _ => ensure _ _

/-- Reading a question comes to the same, save that the answer says whether it was in the cache. -/
lemma read (question : Question) :
    Mirrors w settled settled (fun found found' => found.1 = found'.1) (question.read w)
      (question.read w) := by
  have hloader := Slot.loader_question w question
  refine gate.bind_eq fun _ => weaken (asking question.slot (fun value => (value.asText, true))
    (fun value => (value.asText, false)) (fun _ => rfl)
    ((Action.bind_eq_attempt_bind _ _).trans (congrArg (Action.attempt · >>= _) hloader))
    ?_ ?_ (fun _ => rfl) fun _ => rfl) (List.subset_cons_self _ _)
  · intro completion value hreading
    rw [Slot.reading_question] at hreading
    split at hreading
    · next hok =>
      obtain rfl := Option.some.inj hreading
      have haccept : question.accept w completion = .ok (question.trim completion.out) :=
        if_pos hok
      rw [haccept]
      exact ⟨rfl, rfl⟩
    · cases hreading
  · intro answer hnone
    cases answer with
    | error cause => exact fail cause
    | ok completion =>
      change question.slot.reading completion = none at hnone
      rw [Slot.reading_question] at hnone
      split at hnone
      · cases hnone
      · next hok =>
        have haccept : (Except.ok completion >>= question.accept w) =
            .error (question.refusal w completion) := if_neg hok
        rw [haccept]
        exact fail _

/-- The question for changes comes to the same changes. -/
lemma status : Mirrors w settled settled (fun info info' => info.status = info'.status)
    (status w) (status w) := by
  rw [Question.status_eq]
  exact (read .status).map fun _ _ htext => htext

/-- The question for the current branch comes to the same branch. -/
lemma currentBranch : Mirrors w settled settled (fun info info' => info.branch = info'.branch)
    (currentBranch w) (currentBranch w) := by
  rw [Question.currentBranch_eq]
  exact (read .branch).map fun _ _ htext => htext

/-- The question for the remotes comes to the same remotes. -/
lemma remotes : Mirrors w settled settled (fun info info' => info.remotes = info'.remotes)
    (remotes w) (remotes w) := by
  rw [Question.remotes_eq]
  exact (read .remotes).map fun _ _ htext => htext

/-! ## Operations that only look -/

/-- The question whether the directory lies in a repository comes to the same. -/
lemma isRepository : Mirrors w settled settled Eq (isRepository w) (isRepository w) := by
  refine detect.attempt.bind fun answer answer' hanswer => ?_
  cases hanswer with
  | ok hvalue => exact pure hvalue
  | error cause => exact pure rfl

/-- Finding out the name of the current branch comes to the same. -/
lemma currentName :
    Mirrors w settled settled Eq (currentBranchName? w) (currentBranchName? w) := by
  refine currentBranch.attempt.bind fun answer answer' hanswer => ?_
  cases hanswer with
  | ok hvalue => exact pure (congrArg some hvalue)
  | error cause => exact pure rfl

/-- Requiring a branch comes to the same. -/
lemma require (name : Value) :
    Mirrors w settled settled Eq (requireBranch w name) (requireBranch w name) := by
  refine bind_eq ?_ fun found => ensure found _
  exact (git _).bind_eq fun completion => pure rfl

/-- A slot that is settled is looked at with the same result. -/
lemma readSlot {slot : Slot} (h : slot ∈ settled) :
    Mirrors w settled settled Eq (readSlot slot) (readSlot slot) :=
  fun _ _ haligned => ⟨.answered (haligned.settled slot h), haligned, .nil⟩

/-- The report comes to the same.

**Proof sketch.** The version is not asked but taken from the cache in the end. Checking the
installation has settled it by then: it is known on both sides or on neither. -/
lemma report : Mirrors w settled settled Eq (health w) (health w) := by
  refine detect.attempt.bind fun answer answer' hanswer => ?_
  cases hanswer with
  | error cause => exact pure rfl
  | @ok isRepository _ hvalue =>
    subst hvalue
    cases isRepository with
    | false => exact pure rfl
    | true =>
      refine installation.bind_settling (List.subset_cons_self _ _) fun installed _ hvalue => ?_
      subst hvalue
      refine currentBranch.attempt.bind fun branch branch' hbranch => ?_
      refine status.attempt.bind fun status status' hstatus => ?_
      refine remotes.attempt.bind fun remotes remotes' hremotes => ?_
      refine (readSlot List.mem_cons_self).bind_eq fun version => ?_
      have hname : part? BranchInfo.branch branch = part? BranchInfo.branch branch' :=
        hbranch.part?_eq fun _ _ h => h
      have hchanges : part? StatusInfo.hasChanges status = part? StatusInfo.hasChanges status' :=
        hstatus.part?_eq fun _ _ h => by rw [StatusInfo.hasChanges, h, ← StatusInfo.hasChanges]
      have hremote : part? (fun info : RemotesInfo => !info.names.isEmpty) remotes =
          part? (fun info : RemotesInfo => !info.names.isEmpty) remotes' :=
        hremotes.part?_eq fun _ _ h => by rw [RemotesInfo.names, h, ← RemotesInfo.names]
      rw [hname, hchanges, hremote, hbranch.ignoreAnswer_eq, hstatus.ignoreAnswer_eq,
        hremotes.ignoreAnswer_eq]
      exact pure rfl

/-- The report with the raw listings comes to the same. -/
lemma overview : Mirrors w settled settled Eq (overview w) (overview w) := by
  refine report.bind_eq fun report => ?_
  split
  · refine status.attempt.bind fun status status' hstatus => ?_
    refine remotes.attempt.bind fun remotes remotes' hremotes => ?_
    have hlisting : part? StatusInfo.status status = part? StatusInfo.status status' :=
      hstatus.part?_eq fun _ _ h => h
    have hlisting' : part? RemotesInfo.remotes remotes = part? RemotesInfo.remotes remotes' :=
      hremotes.part?_eq fun _ _ h => h
    rw [hlisting, hlisting']
    exact pure rfl
  · exact pure rfl

/-- Listing the branches comes to the same. -/
lemma listing : Mirrors w settled settled Eq (listBranches w) (listBranches w) := by
  refine gate.bind_eq fun _ => ?_
  refine (gitChecked .listRefs).bind_eq fun output => ?_
  exact currentName.bind_eq fun current => pure rfl

/-! ## Operations that change something -/

/-- Unsetting the slots that a mutation outdates comes to the same. -/
lemma invalidate (mutation : Mutation) :
    Mirrors w settled settled Eq (invalidate mutation) (invalidate mutation) := by
  have hunset : Mirrors w settled settled Eq
      (Action.modify fun state : State =>
        { state with cache := state.cache.invalidate mutation.invalidates })
      (Action.modify fun state : State =>
        { state with cache := state.cache.invalidate mutation.invalidates }) :=
    fun _ _ haligned => ⟨.answered rfl, haligned.invalidate _, .nil⟩
  refine bind_eq ?_ fun _ => hunset
  cases mutation <;> first | exact log _ _ | exact pure rfl

/-- Giving commands one after the other comes to the same. -/
lemma giveAll (commands : List Command) :
    Mirrors w settled settled Eq (giveAll w commands) (giveAll w commands) := by
  induction commands with
  | nil => exact pure rfl
  | cons command rest ih => exact (gitChecked command).bind_eq fun _ => ih

/-- Deleting branches one after the other comes to the same. -/
lemma deleteEach (names : List String) (report : CleanupReport) :
    Mirrors w settled settled Eq (deleteEach w names report) (deleteEach w names report) := by
  induction names generalizing report with
  | nil => exact pure rfl
  | cons name rest ih =>
    refine (gitChecked _).attempt.bind fun answer answer' hanswer => ?_
    cases hanswer with
    | ok hvalue => exact ih _
    | error cause => exact (log _ _).bind_eq fun _ => ih _

/-- Preparing an order comes to the same. -/
lemma prepare (order : Order) :
    Mirrors w settled settled Eq (prepare w order) (prepare w order) := by
  cases order with
  | create name checkout =>
    refine gate.bind_eq fun _ => ?_
    refine (ensure _ _).bind_eq fun _ => ?_
    refine bind_eq ?_ fun found => (ensure _ _).bind_eq fun _ => pure rfl
    exact (git _).bind_eq fun completion => pure rfl
  | checkOut name =>
    refine gate.bind_eq fun _ => ?_
    exact (require name).bind_eq fun _ => pure rfl
  | delete name force =>
    refine gate.bind_eq fun _ => ?_
    refine currentName.bind_eq fun current => ?_
    refine (ensure _ _).bind_eq fun _ => ?_
    exact (require name).bind_eq fun _ => pure rfl
  | commit message files =>
    refine (orAbort _).bind_eq fun message => ?_
    refine gate.bind_eq fun _ => ?_
    exact (orAbort _).bind_eq fun scope => pure rfl
  | push remote branch =>
    refine gate.bind_eq fun _ => bind_eq ?_ fun branch => pure rfl
    cases branch with
    | null =>
      refine currentBranch.bind fun info info' hbranch => pure ?_
      rw [hbranch]
    | _ => exact pure rfl

/-- An order comes to the same. -/
lemma order (order : Order) :
    Mirrors w settled settled Eq (perform w order.call) (perform w order.call) := by
  rw [perform_order]
  refine (prepare order).bind_eq fun alteration => ?_
  refine (giveAll _).bind_eq fun _ => ?_
  refine (invalidate _).bind_eq fun _ => ?_
  exact (log _ _).bind_eq fun _ => pure rfl

/-- Deleting merged branches comes to the same. -/
lemma cleanup (target : Value) (dryRun : Bool) :
    Mirrors w settled settled Eq (cleanup w target dryRun) (cleanup w target dryRun) := by
  refine gate.bind_eq fun _ => ?_
  refine (require target).bind_eq fun _ => ?_
  refine (gitChecked _).bind_eq fun output => ?_
  refine currentName.bind_eq fun current => ?_
  refine (orAbort _).bind_eq fun _ => ?_
  dsimp only
  split
  · exact pure rfl
  · refine (deleteEach _ _).bind_eq fun report => ?_
    refine (invalidate _).bind_eq fun _ => ?_
    exact (log _ _).bind_eq fun _ => pure rfl

/-- Every call but the look at the version comes to the same, save that an answer says whether it
was in the cache. -/
lemma perform {call : Call} (hversion : call ≠ .version) :
    Mirrors w settled settled (fun answer answer' => answer.uncached = answer'.uncached)
      (perform w call) (perform w call) := by
  cases call with
  | version => exact absurd rfl hversion
  | checkInstallation =>
    exact (installation.weaken (List.subset_cons_self _ _)).map fun _ _ h => h ▸ rfl
  | isRepository => exact isRepository.map fun _ _ h => h ▸ rfl
  | status => exact status.map fun _ _ h => by simp [Answer.uncached, h]
  | currentBranch => exact currentBranch.map fun _ _ h => by simp [Answer.uncached, h]
  | remotes => exact remotes.map fun _ _ h => by simp [Answer.uncached, h]
  | health => exact report.map fun _ _ h => h ▸ rfl
  | overview => exact overview.map fun _ _ h => h ▸ rfl
  | validateBranchName name lead => exact pure rfl
  | createBranch name checkout => exact (order (.create name checkout)).imp fun _ _ h => h ▸ rfl
  | checkoutBranch name => exact (order (.checkOut name)).imp fun _ _ h => h ▸ rfl
  | deleteBranch name force => exact (order (.delete name force)).imp fun _ _ h => h ▸ rfl
  | listBranches => exact listing.map fun _ _ h => h ▸ rfl
  | commit message files => exact (order (.commit message files)).imp fun _ _ h => h ▸ rfl
  | push remote branch => exact (order (.push remote branch)).imp fun _ _ h => h ▸ rfl
  | cleanup target dryRun => exact (cleanup target dryRun).map fun _ _ h => h ▸ rfl
  | clearCache =>
    refine map (bind_eq ?_ fun _ => log _ _) fun _ _ _ => rfl
    exact fun _ _ haligned => ⟨.answered rfl, haligned.invalidate _, .nil⟩

end Mirrors

open WorkTree.Action (Keeps)

/-! ## Histories with a stable script -/

/-- The script stays as it is, and every spawn of the command of a slot has the reply for which that
command is answered. -/
def replying (w : Workspace) (script : Script) : TraceRelation State where
  holds state events state' := state.script = script →
    state'.script = script ∧ ∀ spawn ∈ spawnsOf events, ∀ slot : Slot, spawn.args = slot.words →
      ((w.give slot.command).run script).outcome.answer? = spawn.reply.completion?
  nil _ hscript := ⟨hscript, fun _ hmem => by cases hmem⟩
  append := by
    intro _ _ _ events events' h h' hscript
    obtain ⟨hscript, hreplies⟩ := h hscript
    obtain ⟨hscript', hreplies'⟩ := h' hscript
    refine ⟨hscript', fun spawn hmem => ?_⟩
    rw [spawnsOf_append] at hmem
    rcases List.mem_append.1 hmem with hmem | hmem
    · exact hreplies spawn hmem
    · exact hreplies' spawn hmem

/-- Giving a command to a stable script keeps the replies. -/
lemma git_keeps_replying {script : Script} (hstable : script.IsStable) (w : Workspace)
    (command : Command) : Keeps (replying w script) (git w command) := by
  rintro state rfl
  refine ⟨w.give_state hstable command, ?_⟩
  change ∀ spawn ∈ ((w.give command).run state.script).spawns, _
  cases w.give_run command state.script with
  | never spawns _ _ => simp [spawns]
  | once spawn spawns args _ outcome =>
    rw [spawns]
    intro spawn' hmem slot hargs
    obtain rfl := List.mem_singleton.1 hmem
    obtain rfl := Slot.command_of_names (hargs ▸ args)
    exact Option.ext fun completion => Outcome.answer?_eq_some_iff.trans (outcome completion)

/-- Every call keeps the replies of a stable script. -/
lemma perform_keeps_replying {script : Script} (hstable : script.IsStable) (w : Workspace)
    (call : Call) : Keeps (replying w script) (perform w call) := by
  have hkept : KeptByQuestions (replying w script) w call.Asks :=
    keptByQuestions_of_git (fun _ _ _ hscript => ⟨hscript, fun _ hmem => by cases hmem⟩)
      (fun _ _ _ hscript => ⟨hscript, fun _ hmem => by cases hmem⟩)
      fun command _ _ => git_keeps_replying hstable w command
  exact hkept.perform (fun command _ => git_keeps_replying hstable w command)
    fun _ hscript => ⟨hscript, fun _ hmem => by cases hmem⟩

/-- While the script is stable, the cache holds what git would answer.

**Proof sketch.** What a slot holds is what there is to see among its recent spawns
(`history_follows`), and each of these had the reply that git always gives. -/
lemma history_faithful {script : Script} (hstable : script.IsStable) (w : Workspace)
    (calls : List Call) {slot : Slot} {value : Value}
    (h : (stateAfter w calls (.initial script)).cache.get slot = some value) :
    w.kept? script slot = some value := by
  have hsightings := (history_follows w script calls slot).sightings_eq
  rw [h] at hsightings
  have hvalue : value ∈ slot.sightings
      (spawnsIn (recent slot (history w calls (.initial script)))) := by
    rw [hsightings]
    exact List.mem_singleton_self value
  obtain ⟨spawn, hspawn, hkeeps⟩ := List.mem_filterMap.1 hvalue
  split at hkeeps
  · next hargs =>
    have hreplies :=
      (history_keeps (perform_keeps_replying hstable w) calls (.initial script) rfl).2
    rw [spawnsOf_flatMap] at hreplies
    rw [Workspace.kept?, hreplies spawn (mem_spawnsIn_of_recent hspawn) slot hargs]
    exact hkeeps
  · cases hkeeps

/-- A session with a history is aligned with a fresh one while the script is stable. -/
lemma aligned_history {script : Script} (hstable : script.IsStable) (w : Workspace)
    (calls : List Call) :
    Aligned w [] (stateAfter w calls (.initial script)) (.initial script) where
  stable := hstable
  script_eq :=
    (history_keeps (perform_keeps_replying hstable w) calls (.initial script) rfl).1
  faithful _ _ := history_faithful hstable w calls
  knows slot _ h := by cases slot <;> cases h
  settled _ hmem := by cases hmem

/-- **The cache is transparent.** While no arguments have more than one reply, every call that is
made after others comes to what it comes to as the first call of a session, save that an answer may
say that it was in the cache; and it starts the same commands in the same order, save that some are
left out of those that fill slots. Only looking at the version in the cache is different.

**Proof sketch.** The state that the earlier calls leave is aligned with that of a session that
begins (`aligned_history`), and from aligned states every call comes to the same
(`Mirrors.perform`). -/
theorem cache_transparent (w : Workspace) {script : Script} (hstable : script.IsStable)
    (earlier : List Call) {call : Call} (hversion : call ≠ .version) :
    let r := (perform w call).run (stateAfter w earlier (.initial script))
    let fresh := (perform w call).run (.initial script)
    r.outcome.map Answer.uncached = fresh.outcome.map Answer.uncached ∧
      Omits r.spawns fresh.spawns := by
  intro r fresh
  obtain ⟨houtcome, -, homits⟩ :=
    Mirrors.perform hversion _ _ (aligned_history hstable w earlier)
  refine ⟨?_, homits⟩
  change r.outcome.Rel _ fresh.outcome at houtcome
  generalize r.outcome = outcome at houtcome ⊢
  generalize fresh.outcome = outcome' at houtcome ⊢
  cases houtcome with
  | answered hanswers => exact congrArg Outcome.answered hanswers
  | failed cause => rfl
  | aborted fault => rfl

/-- A script in which commands succeed with one output each is stable. -/
lemma succeeding_isStable (outputs : List (List String × String)) :
    (Script.succeeding outputs).IsStable := by
  intro args replies hlookup
  induction outputs with
  | nil => cases hlookup
  | cons entry rest ih =>
    rw [Script.succeeding, List.map_cons, List.lookup_cons] at hlookup
    split at hlookup
    · obtain rfl := Option.some.inj hlookup
      exact Nat.le_refl 1
    · exact ih hlookup

/-- Asking for changes the second time leaves out both commands of the first time, and comes to the
same. -/
theorem cache_transparent_twice :
    let r := (perform .plain .status).run (stateAfter .plain [.status] (.initial .oneChange))
    let fresh := (perform .plain .status).run (.initial .oneChange)
    Script.oneChange.IsStable ∧ Call.status ≠ .version ∧
      r.outcome = .answered (.status ⟨" M a.txt", true⟩) ∧ r.spawns = [] ∧
      fresh.outcome = .answered (.status ⟨" M a.txt", false⟩) ∧
      fresh.spawns.map Spawn.args = [Slot.isRepository.words, Slot.status.words] ∧
      r.outcome.map Answer.uncached = fresh.outcome.map Answer.uncached ∧
        Omits r.spawns fresh.spawns :=
  ⟨succeeding_isStable _, nofun, by decide, rfl, by decide, by decide,
    cache_transparent .plain (succeeding_isStable _) [.status] nofun⟩

end Session

end WorkTree
