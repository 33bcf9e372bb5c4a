import WorkTree.Proofs.Session.Failures

set_option relaxedAutoImplicit false
set_option autoImplicit false

/-!
# Failures report what git said last

The failure of a call tells what became of the last command. If that never completed, the failure is
the one that it came to, to the letter; if it completed and had to succeed, the failure tells its
errors, or else its output. Every other sort of failure stands for one refusal, and only for that.
One refusal is set apart: to delete the absent value is taken for the deletion of the current branch
when that could not be found out.

## Main definitions

* `WorkTree.Session.onsite` — nothing is started unless the directory exists.
* `WorkTree.Session.TellsLast` — a failure tells how the last command ended.
* `WorkTree.Session.FailureProvenance` — where the failure of a call comes from.

## Main results

* `WorkTree.Session.perform_onsite` — a call that can fail starts nothing unless the directory
  exists.
* `WorkTree.Session.failure_provenance` — no failure is reported but the last one.
-/

namespace WorkTree

namespace Session

open WorkTree.Action (Keeps)

/-! ## The directory -/

/-- Nothing is started unless the directory exists. -/
def onsite (w : Workspace) : TraceRelation State :=
  .every fun _ => w.host.look w.directory = .directory

/-- A command that runs in the directory is not started unless that exists. -/
lemma git_keeps_onsite (w : Workspace) {command : Command} (h : command.isLocal = true) :
    Keeps (onsite w) (git w command) :=
  fun _ _ hmem => (git_launches hmem).look h

/-- A call that can fail starts nothing unless the directory exists.

**Proof sketch.** It is made of commands that run in the directory; only the question for the
version does not, and no such call asks it. -/
theorem perform_onsite {call : Call} (h : call.isFallible = true) (w : Workspace) :
    Keeps (onsite w) (perform w call) := by
  have hstill : ∀ {α : Type} {action : Session α}, (∀ state, (action.run state).spawns = []) →
      Keeps (onsite w) action := fun hnone state => TraceRelation.every_of_no_spawns (hnone state)
  have hlog : ∀ severity message, Keeps (onsite w) (log severity message) :=
    fun _ _ => hstill fun _ => rfl
  have hwrite : ∀ slot value, Keeps (onsite w) (writeSlot slot value) :=
    fun _ _ => hstill fun _ => rfl
  have hgate : Keeps (onsite w) (requireRepository w) :=
    (detectRepository_keeps (hlog _) (hwrite _) (git_keeps_onsite w rfl)).bind fun _ => .ensure _ _
  have hread : ∀ question : Question, Keeps (onsite w) (question.read w) := fun question =>
    read_keeps hgate (hwrite _) (git_keeps_onsite w (by cases question <;> rfl))
  have horder : ∀ order : Order, Keeps (onsite w) (perform w order.call) := by
    intro order
    rw [perform_order]
    refine (prepare_keeps hgate (fun name => git_keeps_onsite w rfl) fun _ => hread _).bind
      fun alteration => ?_
    refine carryOut_keeps hlog (fun command hmem => git_keeps_onsite w ?_)
      fun state => TraceRelation.every_of_no_spawns rfl
    have halters := Alteration.not_isReadOnly hmem
    cases command <;> first | rfl | cases halters
  cases call with
  | status => exact Question.perform_call w .status ▸ (hread _).map _
  | currentBranch => exact Question.perform_call w .branch ▸ (hread _).map _
  | remotes => exact Question.perform_call w .remotes ▸ (hread _).map _
  | createBranch name checkout => exact horder (.create name checkout)
  | checkoutBranch name => exact horder (.checkOut name)
  | deleteBranch name force => exact horder (.delete name force)
  | commit message files => exact horder (.commit message files)
  | push remote branch => exact horder (.push remote branch)
  | listBranches =>
    refine Keeps.map _ (hgate.bind fun _ => ?_)
    refine (gitChecked_keeps (git_keeps_onsite w rfl)).bind fun output => ?_
    exact (currentBranchName?_keeps (hread _)).bind fun current => .pure _
  | cleanup target dryRun =>
    rw [perform_of_isRemoval rfl]
    have happroach : Keeps (onsite w) (approach w (.cleanup target dryRun)) := by
      refine hgate.bind fun _ => ?_
      refine (requireBranch_keeps (git_keeps_onsite w rfl)).bind fun _ => ?_
      exact gitChecked_keeps (git_keeps_onsite w rfl)
    refine happroach.bind fun listing => ?_
    refine (currentBranchName?_keeps (hread _)).bind fun current => ?_
    exact remove_cleanup_keeps hlog fun _ _ _ => git_keeps_onsite w rfl
  | _ => cases h

/-! ## Failures -/

section

variable {w : Workspace} {call : Call} {bar : Option Cause} {spawns : List Spawn} {cause : Cause}

/-- A call that the session refuses fails for that cause. -/
lemma Fails.eq_of_bar (h : Fails w call bar spawns cause) {cause' : Cause}
    (hbar : bar = some cause') : cause = cause' := by
  cases h with
  | barred refused _ _ => exact Option.some.inj (refused.symm.trans hbar)
  | grounded free _ => cases free.symm.trans hbar

/-- A failure with which the session refuses a call is that refusal. -/
lemma Fails.bar_of_isBar (h : Fails w call bar spawns cause) (hkind : cause.kind.isBar = true) :
    bar = some cause := by
  cases h with
  | barred refused _ _ => exact refused
  | grounded _ ground =>
    rw [ground.not_isBar] at hkind
    cases hkind

/-- A failure of another sort has a ground. -/
lemma Fails.ground_of_not_isBar {state : State} {after : Cache}
    (h : Fails w call (call.bar? w state after) spawns cause)
    (hkind : cause.kind.isBar = false) : Ground w call spawns cause := by
  cases h with
  | barred refused _ _ =>
    rw [Call.isBar_of_bar? refused] at hkind
    cases hkind
  | grounded _ ground => exact ground

/-- When a call fails, what was started last has told something to the session, which refuses the
call; or it gives the cause. -/
lemma Fails.last (h : Fails w call bar spawns cause)
    (hsite : ∀ spawn ∈ spawns, w.host.look w.directory = .directory) {spawn : Spawn}
    (hlast : spawns.getLast? = some spawn) :
    (bar = some cause ∧ spawn.IsProbe ∧ (cause ≠ .branchCheckedOut .null → spawn.IsCompleted)) ∨
      call.complaint? w spawn = some cause := by
  have hmem : spawn ∈ spawns := List.mem_of_getLast? hlast
  cases h with
  | barred refused probes completed =>
    exact .inl ⟨refused, probes spawn hmem, fun hnamed => completed hnamed spawn hmem⟩
  | grounded _ ground =>
    cases ground with
    | unreached _ look _ => exact absurd (hsite spawn hmem) look
    | last spawn' last complaint =>
      obtain rfl := Option.some.inj (hlast.symm.trans last)
      exact .inr complaint

/-- When the last spawn of a call that fails looked for a branch, it gives the cause. -/
lemma Fails.complaint_of_lookWords (h : Fails w call bar spawns cause)
    (hsite : ∀ spawn ∈ spawns, w.host.look w.directory = .directory) {spawn : Spawn}
    (hlast : spawns.getLast? = some spawn) {name : Value}
    (hlooks : spawn.args = Command.lookWords name) : call.complaint? w spawn = some cause := by
  rcases h.last hsite hlast with ⟨-, hprobe, -⟩ | hcomplaint
  · rw [Spawn.IsProbe, hlooks] at hprobe
    rcases hprobe with hargs | hargs
    · simp [Command.lookWords, Slot.words] at hargs
    · simp [Command.lookWords, Question.words, Command.currentBranchWords] at hargs
  · exact hcomplaint

/-- A last spawn that never completed is the failure. -/
lemma Fails.verdict_of_none (h : Fails w call bar spawns cause)
    (hsite : ∀ spawn ∈ spawns, w.host.look w.directory = .directory)
    (hnamed : cause ≠ .branchCheckedOut .null) {spawn : Spawn}
    (hlast : spawns.getLast? = some spawn) (hreply : spawn.reply.completion? = none) :
    w.runner.verdict spawn.args spawn.reply = .failed cause := by
  rcases h.last hsite hlast with ⟨-, -, hcompleted⟩ | hcomplaint
  · have hsome := hcompleted hnamed
    rw [Spawn.IsCompleted, hreply] at hsome
    cases hsome
  · exact (Call.complains_of_complaint? hcomplaint).verdict_of_none hreply

variable {state : State} {after : Cache}

/-- A failure that is no refusal by the session is given by the last spawn, if there is one. -/
lemma Fails.complains (h : Fails w call (call.bar? w state after) spawns cause)
    (hsite : ∀ spawn ∈ spawns, w.host.look w.directory = .directory)
    (hkind : cause.kind.isBar = false) {spawn : Spawn} (hlast : spawns.getLast? = some spawn) :
    call.Complains w spawn cause := by
  rcases h.last hsite hlast with ⟨hrefused, -, -⟩ | hcomplaint
  · rw [Call.isBar_of_bar? hrefused] at hkind
    cases hkind
  · exact Call.complains_of_complaint? hcomplaint

/-- A failure that is neither a refusal by the session nor a failed invocation is given by the last
spawn, which exists. -/
lemma Fails.exists_last (h : Fails w call (call.bar? w state after) spawns cause)
    (hisBar : cause.kind.isBar = false) (hkind : cause.kind ≠ .toolInvocationFailed) :
    ∃ spawn, spawns.getLast? = some spawn ∧ call.Complains w spawn cause :=
  (h.ground_of_not_isBar hisBar).exists_last hkind

/-- A call fails for lack of time exactly when its last spawn ran out of it. -/
lemma Fails.timedOut_iff (h : Fails w call (call.bar? w state after) spawns cause)
    (hsite : ∀ spawn ∈ spawns, w.host.look w.directory = .directory)
    (hnamed : cause ≠ .branchCheckedOut .null) :
    cause.kind = .operationTimedOut ↔
      ∃ spawn, spawns.getLast? = some spawn ∧ spawn.reply = .timedOut := by
  constructor
  · intro hkind
    obtain ⟨spawn, hlast, hcomplains⟩ := h.exists_last (by rw [hkind]; rfl) (by rw [hkind]; nofun)
    exact ⟨spawn, hlast, hcomplains.timedOut_of_kind hkind⟩
  · rintro ⟨spawn, hlast, hreply⟩
    have hnone : spawn.reply.completion? = none := by rw [hreply]; rfl
    have hverdict := h.verdict_of_none hsite hnamed hlast hnone
    rw [Runner.kind_of_verdict hverdict, if_pos hreply]

/-- A call fails because a branch exists exactly when it is to make it and has found it last. -/
lemma Fails.branchExists_iff (h : Fails w call (call.bar? w state after) spawns cause)
    (hsite : ∀ spawn ∈ spawns, w.host.look w.directory = .directory) :
    cause.kind = .branchExists ↔ ∃ name checkout spawn,
      call = .createBranch name checkout ∧ spawns.getLast? = some spawn ∧
        spawn.args = Command.lookWords name ∧ spawn.reply.isSuccess = true := by
  constructor
  · intro hkind
    obtain ⟨spawn, hlast, hcomplains⟩ := h.exists_last (by rw [hkind]; rfl) (by rw [hkind]; nofun)
    obtain ⟨name, checkout, hcall, hlooks, hfound⟩ := hcomplains.present_of_kind hkind
    exact ⟨name, checkout, spawn, hcall, hlast, hlooks, hfound⟩
  · rintro ⟨name, checkout, spawn, rfl, hlast, hlooks, hfound⟩
    obtain ⟨completion, hsuccess⟩ := Option.isSome_iff_exists.1 hfound
    obtain ⟨hreply, hok⟩ := Reply.success?_eq_some_iff.1 hsuccess
    have hcomplaint := h.complaint_of_lookWords hsite hlast hlooks
    rw [Call.complaint?_of_completion hreply, Call.objection?, if_pos hlooks, if_pos hok]
      at hcomplaint
    obtain rfl := Option.some.inj hcomplaint
    rfl

/-- A call fails because a branch is missing exactly when it needs it and has last looked for it in
vain. -/
lemma Fails.branchNotFound_iff (h : Fails w call (call.bar? w state after) spawns cause)
    (hsite : ∀ spawn ∈ spawns, w.host.look w.directory = .directory) :
    cause.kind = .branchNotFound ↔ ∃ name spawn completion,
      call.target? = some name ∧ spawns.getLast? = some spawn ∧
        spawn.args = Command.lookWords name ∧ spawn.reply.completion? = some completion ∧
          completion.ok = false := by
  constructor
  · intro hkind
    obtain ⟨spawn, hlast, hcomplains⟩ := h.exists_last (by rw [hkind]; rfl) (by rw [hkind]; nofun)
    obtain ⟨name, completion, hneeds, hlooks, hreply, hbad⟩ := hcomplains.absent_of_kind hkind
    exact ⟨name, spawn, completion, hneeds, hlast, hlooks, hreply, hbad⟩
  · rintro ⟨name, spawn, completion, hneeds, hlast, hlooks, hreply, hbad⟩
    have hcomplaint := h.complaint_of_lookWords hsite hlast hlooks
    rw [Call.complaint?_of_completion hreply, Call.objection?_of_target hneeds, if_pos hlooks,
      hbad] at hcomplaint
    obtain rfl := Option.some.inj hcomplaint
    rfl

/-- A call fails outside a repository exactly when the detection says no. -/
lemma Fails.notARepository_iff (h : Fails w call (call.bar? w state after) spawns cause) :
    cause.kind = .notARepository ↔
      ((detectRepository w).run state).outcome = .answered false := by
  constructor
  · intro hkind
    have hbar := h.bar_of_isBar (by rw [hkind]; rfl)
    rcases Call.bar?_eq_some_iff.1 hbar with ⟨hdetected, -⟩ | ⟨-, hforbids⟩
    · exact hdetected
    · rcases Call.forbids?_eq_some_iff.1 hforbids with ⟨_, _, -, -, rfl⟩ | ⟨_, _, -, -, rfl⟩
      · cases hkind
      · cases hkind
  · intro hdetected
    obtain rfl := h.eq_of_bar (Call.bar?_eq_some_iff.2 (.inl ⟨hdetected, rfl⟩))
    rfl

/-- A call fails because of a name that breaks the rules exactly when it is to make a branch of that
name in a repository. -/
lemma Fails.invalidBranchName_iff (h : Fails w call (call.bar? w state after) spawns cause) :
    cause.kind = .invalidBranchName ↔
      ((detectRepository w).run state).outcome = .answered true ∧
        ∃ name checkout, call = .createBranch name checkout ∧
          (BranchName.validateValue name).valid = false := by
  constructor
  · intro hkind
    have hbar := h.bar_of_isBar (by rw [hkind]; rfl)
    rcases Call.bar?_eq_some_iff.1 hbar with ⟨-, rfl⟩ | ⟨hdetected, hforbids⟩
    · cases hkind
    · rcases Call.forbids?_eq_some_iff.1 hforbids with
        ⟨name, checkout, hcall, hinvalid, -⟩ | ⟨_, _, -, -, rfl⟩
      · exact ⟨hdetected, name, checkout, hcall, hinvalid⟩
      · cases hkind
  · rintro ⟨hdetected, name, checkout, hcall, hinvalid⟩
    have hforbids : call.forbids? after =
        some (.nameInvalid name (BranchName.validateValue name).errors) :=
      Call.forbids?_eq_some_iff.2 (.inl ⟨name, checkout, hcall, hinvalid, rfl⟩)
    obtain rfl := h.eq_of_bar (Call.bar?_eq_some_iff.2 (.inr ⟨hdetected, hforbids⟩))
    rfl

/-- A call fails because of the current branch exactly when it is to delete, in a repository, the
branch that the cache then holds as that. -/
lemma Fails.cannotDeleteCurrentBranch_iff
    (h : Fails w call (call.bar? w state after) spawns cause) :
    cause.kind = .cannotDeleteCurrentBranch ↔
      ((detectRepository w).run state).outcome = .answered true ∧
        ∃ name force, call = .deleteBranch name force ∧
          Value.ofText? ((after.get .branch).map Value.asText) = name := by
  constructor
  · intro hkind
    have hbar := h.bar_of_isBar (by rw [hkind]; rfl)
    rcases Call.bar?_eq_some_iff.1 hbar with ⟨-, rfl⟩ | ⟨hdetected, hforbids⟩
    · cases hkind
    · rcases Call.forbids?_eq_some_iff.1 hforbids with
        ⟨_, _, -, -, rfl⟩ | ⟨name, force, hcall, hcurrent, -⟩
      · cases hkind
      · exact ⟨hdetected, name, force, hcall, hcurrent⟩
  · rintro ⟨hdetected, name, force, hcall, hcurrent⟩
    have hforbids : call.forbids? after = some (.branchCheckedOut name) :=
      Call.forbids?_eq_some_iff.2 (.inr ⟨name, force, hcall, hcurrent, rfl⟩)
    obtain rfl := h.eq_of_bar (Call.bar?_eq_some_iff.2 (.inr ⟨hdetected, hforbids⟩))
    rfl

/-- That a branch is the current one is said only of the branch that a call is to delete. -/
lemma Fails.call_of_branchCheckedOut {name : Value}
    (h : Fails w call (call.bar? w state after) spawns (.branchCheckedOut name)) :
    ∃ force, call = .deleteBranch name force := by
  rcases Call.bar?_eq_some_iff.1 (h.bar_of_isBar rfl) with ⟨-, hcause⟩ | ⟨-, hforbids⟩
  · cases hcause
  · rcases Call.forbids?_eq_some_iff.1 hforbids with
      ⟨_, _, -, -, hcause⟩ | ⟨name', force, hcall, -, hcause⟩
    · cases hcause
    · obtain rfl := Cause.branchCheckedOut.inj hcause
      exact ⟨force, hcall⟩

end

/-- The failure of a call tells how its last command ended, if that never completed: the failure is
the one that the command came to, and it is for lack of time exactly if the command ran out of
it. -/
structure TellsLast (w : Workspace) (r : Run State Answer) (cause : Cause) : Prop where
  unfinished : ∀ spawn, r.spawns.getLast? = some spawn → spawn.reply.completion? = none →
    w.runner.verdict spawn.args spawn.reply = .failed cause
  timedOut_iff : cause.kind = .operationTimedOut ↔
    ∃ spawn, r.spawns.getLast? = some spawn ∧ spawn.reply = .timedOut

/-- Where the failure of a call comes from. A last command that never completed is the failure, and
so is one that ran out of time. The only exception is the deletion of the absent value, which is no
branch name: it may be refused all the same. A last command that completed and is turned down for
its exit code is told by what it printed. Without any, a failed command had no directory to run in.
All other failures stand for their own refusals: by the detection, of a name that breaks the rules,
of a name that git has found, of a name that git has not found, and of the branch that the cache
then holds as the current one. -/
structure FailureProvenance (w : Workspace) (call : Call) (state : State) (r : Run State Answer)
    (cause : Cause) : Prop where
  named : (∀ force, call ≠ .deleteBranch .null force) → TellsLast w r cause
  unnamed : ∀ force, call = .deleteBranch .null force →
    cause = .branchCheckedOut .null ∨ TellsLast w r cause
  exception : cause = .branchCheckedOut .null → ∃ force, call = .deleteBranch .null force
  rejected : ∀ spawn completion, r.spawns.getLast? = some spawn →
    spawn.reply.completion? = some completion → cause.kind = .toolInvocationFailed →
      completion.ok = false ∧ cause.message = completion.account spawn.args
  unstarted : r.spawns = [] → cause.kind = .toolInvocationFailed →
    w.host.look w.directory ≠ .directory ∧ ∃ args, cause = .directoryMissing w.directory args
  notARepository_iff : cause.kind = .notARepository ↔
    ((detectRepository w).run state).outcome = .answered false
  invalidBranchName_iff : cause.kind = .invalidBranchName ↔
    ((detectRepository w).run state).outcome = .answered true ∧
      ∃ name checkout, call = .createBranch name checkout ∧
        (BranchName.validateValue name).valid = false
  branchExists_iff : cause.kind = .branchExists ↔ ∃ name checkout spawn,
    call = .createBranch name checkout ∧ r.spawns.getLast? = some spawn ∧
      spawn.args = Command.lookWords name ∧ spawn.reply.isSuccess = true
  branchNotFound_iff : cause.kind = .branchNotFound ↔ ∃ name spawn completion,
    call.target? = some name ∧ r.spawns.getLast? = some spawn ∧
      spawn.args = Command.lookWords name ∧ spawn.reply.completion? = some completion ∧
        completion.ok = false
  cannotDeleteCurrentBranch_iff : cause.kind = .cannotDeleteCurrentBranch ↔
    ((detectRepository w).run state).outcome = .answered true ∧
      ∃ name force, call = .deleteBranch name force ∧
        Value.ofText? ((r.state.cache.get .branch).map Value.asText) = name

/-- **The last failure is the one that is reported.** Whatever the state and the replies, when a
call fails, its failure comes from where it should: from the last command, if that never completed
or was turned down, or from the refusal that it names. Commands that failed before and were passed
over leave no trace in it.

**Proof sketch.** A call that fails is refused by the session, or fails on the ground that its last
spawn gives (`perform_fails`). These two differ in the sort of the failure, so that each sort tells
which it is; conversely, a refusal by the session is a function of the detection and the cache, and
a ground one of the last spawn. -/
theorem failure_provenance {w : Workspace} {call : Call} {state : State} {cause : Cause}
    (h : ((perform w call).run state).outcome = .failed cause) :
    FailureProvenance w call state ((perform w call).run state) cause := by
  have hfails := perform_fails w call state cause h
  have hfallible : call.isFallible = true := by
    cases hnever : call.isFallible with
    | true => rfl
    | false => exact (perform_failsWith hnever w state cause h).elim
  have hsite : ∀ spawn ∈ ((perform w call).run state).spawns,
      w.host.look w.directory = .directory := perform_onsite hfallible w state
  have htells : cause ≠ .branchCheckedOut .null →
      TellsLast w ((perform w call).run state) cause := fun hcause =>
    ⟨fun _ => hfails.verdict_of_none hsite hcause, hfails.timedOut_iff hsite hcause⟩
  have hexception : cause = .branchCheckedOut .null →
      ∃ force, call = .deleteBranch .null force := by
    rintro rfl
    exact hfails.call_of_branchCheckedOut
  constructor
  case named =>
    refine fun hnamed => htells fun hcause => ?_
    obtain ⟨force, hcall⟩ := hexception hcause
    exact hnamed force hcall
  case unnamed => exact fun _ _ => or_iff_not_imp_left.2 htells
  case exception => exact hexception
  case rejected =>
    intro spawn completion hlast hreply hkind
    have hcomplains := hfails.complains hsite (by rw [hkind]; rfl) hlast
    exact hcomplains.account_of_completion hreply hkind
  case unstarted =>
    intro hnone hkind
    cases hfails.ground_of_not_isBar (by rw [hkind]; rfl) with
    | unreached args look missing => exact ⟨look, args, missing⟩
    | last spawn last _ =>
      rw [hnone] at last
      cases last
  case notARepository_iff => exact hfails.notARepository_iff
  case invalidBranchName_iff => exact hfails.invalidBranchName_iff
  case branchExists_iff => exact hfails.branchExists_iff hsite
  case branchNotFound_iff => exact hfails.branchNotFound_iff hsite
  case cannotDeleteCurrentBranch_iff => exact hfails.cannotDeleteCurrentBranch_iff

/-- A script of a repository without branches in which the question for the current branch runs out
of time. -/
def hesitant : Script :=
  (Script.succeeding [(Slot.isRepository.words, "true\n")]).set Question.branch.words [.timedOut]

/-- A branch that is to be deleted is missing. That the question for the current branch ran out of
time is not reported, since the look for the branch came after it. -/
theorem failure_provenance_missing :
    let call : Call := .deleteBranch (.text "topic") false
    let state := State.initial hesitant
    let r := (perform .plain call).run state
    r.outcome = .failed (.branchMissing (.text "topic")) ∧
      r.spawns.map Spawn.args =
        [Slot.isRepository.words, Question.branch.words, Command.lookWords (.text "topic")] ∧
      FailureProvenance .plain call state r (.branchMissing (.text "topic")) :=
  ⟨by decide, by decide, failure_provenance (by decide)⟩

/-- The deletion of the absent value is refused although the last spawn ran out of time. -/
example :
    let state := State.initial hesitant
    let r := (perform .plain (.deleteBranch .null false)).run state
    r.outcome = .failed (.branchCheckedOut .null) ∧
      r.spawns.getLast?.map Spawn.reply = some .timedOut := by decide

end Session

end WorkTree
