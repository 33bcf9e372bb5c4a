import WorkTree.Proofs.Session.Deletions

set_option relaxedAutoImplicit false
set_option autoImplicit false

/-!
# The grounds of a failure

A call gives some commands and may fail behind any of them. What it fails with is then a matter of
the last one alone: a command that never completed is the failure that it came to, one that
completed is turned down for its exit code, and looking for a branch is a refusal to go on. Failures
of commands that were given before are not seen any more. What comes behind other commands fails on
the same grounds, so that this is shown for single commands and carries over to all that is made of
them.

## Main definitions

* `WorkTree.Command.lookWords` — the arguments of the look for a branch.
* `WorkTree.Completion.account` — what is told of a completed command that did not succeed.
* `WorkTree.Call.objection?`, `WorkTree.Call.complaint?` — the cause that a call fails with when a
  completed command, or a spawn, is its last one.
* `WorkTree.Call.Complains` — the ways in which a spawn gives a call a cause to fail.
* `WorkTree.Session.Ground` — a cause is that of the last spawn, or of a missing directory.
* `WorkTree.Session.Blames` — a run that fails does so on such a ground.

## Main results

* `WorkTree.Call.complains_of_complaint?` — the cause that a spawn gives is given in one of these
  ways.
* `WorkTree.Session.Blames.bind` — joined actions fail on the grounds of their parts.
* `WorkTree.Session.blames_git` — a command fails on the ground of its own spawn.
-/

namespace WorkTree

/-! ## What a call makes of its last spawn -/

/-- The arguments of the look for a branch. -/
def Command.lookWords (name : Value) : List String :=
  ["show-ref", "--verify", "--quiet", "refs/heads/" ++ name.asText]

/-- The arguments of the look for a branch are those of its command. -/
lemma Command.names_showBranch_iff {name : Value} {args : List String} :
    (Command.showBranch name.asText).Names args ↔ args = lookWords name :=
  Command.names_iff rfl

/-- A command that may change something neither looks for a branch nor asks for the current one. -/
lemma Command.verb_ne_of_alters {command : Command} (h : command.isReadOnly = false) :
    command.verb ≠ "show-ref" ∧ command.verb ≠ "symbolic-ref" := by
  cases command <;> simp [isReadOnly, verb] at h ⊢

namespace Call

/-- The branch that has to exist for a call. -/
def target? : Call → Option Value
  | .checkoutBranch name | .deleteBranch name _ | .cleanup name _ => some name
  | _ => none

/-- The cause of a completed command that had to succeed and did not. -/
def rejection? (w : Workspace) (args : List String) (completion : Completion) : Option Cause :=
  if completion.ok then none
  else if args = Question.branch.words then some (Question.branch.refusal w completion)
  else some (.exited w.directory args completion)

/-- The cause that a call fails with behind a completed command, if it goes no further. A new branch
must not exist, a branch to do something with has to, and all other commands have to succeed. -/
def objection? (call : Call) (w : Workspace) (args : List String) (completion : Completion) :
    Option Cause :=
  match call with
  | .createBranch name _ =>
    if args = Command.lookWords name then
      if completion.ok then some (.branchExists name) else none
    else rejection? w args completion
  | .checkoutBranch name | .deleteBranch name _ | .cleanup name _ =>
    if args = Command.lookWords name then
      if completion.ok then none else some (.branchMissing name)
    else rejection? w args completion
  | _ => rejection? w args completion

/-- A call that needs a branch fails behind the look for it when that is not found. -/
lemma objection?_of_target {call : Call} {w : Workspace} {name : Value}
    (h : call.target? = some name) (args : List String) (completion : Completion) :
    call.objection? w args completion =
      if args = Command.lookWords name then
        if completion.ok then none else some (.branchMissing name)
      else rejection? w args completion := by
  cases call with
  | checkoutBranch name' | deleteBranch name' force | cleanup name' dryRun =>
    obtain rfl := Option.some.inj h
    rfl
  | _ => cases h

/-- The cause that a call fails with behind a spawn, if it goes no further: what the reply comes to,
or else what is wrong with the completed command. -/
def complaint? (call : Call) (w : Workspace) (spawn : Spawn) : Option Cause :=
  match w.runner.verdict spawn.args spawn.reply with
  | .answered completion => call.objection? w spawn.args completion
  | .failed cause => some cause
  | .aborted _ => none

/-- A command that does not look for a branch has to succeed in every call. -/
lemma objection?_of_names {call : Call} {w : Workspace} {command : Command} {args : List String}
    (hnames : command.Names args) (hlook : command.verb ≠ "show-ref") (completion : Completion) :
    call.objection? w args completion = rejection? w args completion := by
  have hother : ∀ name, args ≠ Command.lookWords name := by
    rintro name rfl
    exact hlook (Option.some.inj hnames.head?).symm
  cases call <;> simp [objection?, hother]

end Call

/-! ## What a failure tells of the last spawn -/

/-- What is told of a completed command that did not succeed: that no branch is checked out, if it
asked for the current one and ended with the exit code one and no errors; or what it printed as
errors, or else as output, without the blanks at both ends; or that it failed. -/
def Completion.account (completion : Completion) (args : List String) : String :=
  let err := Text.strip completion.err
  let out := Text.strip completion.out
  if args = Question.branch.words ∧ completion.hasCode 1 ∧ err = "" then "HEAD is detached"
  else if err ≠ "" then err
  else if out ≠ "" then out
  else "git " ++ commandLine args ++ " failed"

/-- The tags of the failures with which the session itself refuses a call. -/
def Failure.Kind.isBar : Failure.Kind → Bool
  | .notARepository | .invalidBranchName | .cannotDeleteCurrentBranch => true
  | .branchExists | .branchNotFound | .operationTimedOut | .toolInvocationFailed => false

namespace Call

variable {call : Call} {w : Workspace}

/-- The cause of a completed command that had to succeed tells what it printed. -/
lemma rejection?_eq_some {args : List String} {completion : Completion} {cause : Cause}
    (h : rejection? w args completion = some cause) :
    completion.ok = false ∧ cause.kind = .toolInvocationFailed ∧
      cause.message = completion.account args := by
  rw [rejection?] at h
  cases hok : completion.ok with
  | true => simp [hok] at h
  | false =>
    simp only [hok, Bool.false_eq_true, if_false] at h
    refine ⟨rfl, ?_⟩
    by_cases hargs : args = Question.branch.words
    · rw [if_pos hargs] at h
      obtain rfl := Option.some.inj h
      by_cases hdetached : completion.hasCode 1 = true ∧ Text.strip completion.err = ""
      · simp only [Question.refusal, if_pos hdetached]
        exact ⟨rfl, (if_pos ⟨hargs, hdetached⟩).symm⟩
      · simp only [Question.refusal, if_neg hdetached]
        refine ⟨rfl, ?_⟩
        rw [Completion.account, if_neg fun htold => hdetached htold.2, hargs]
        rfl
    · rw [if_neg hargs] at h
      obtain rfl := Option.some.inj h
      refine ⟨rfl, ?_⟩
      rw [Completion.account, if_neg fun htold => hargs htold.1]
      rfl

/-- The ways in which a spawn gives a call a cause to fail: it never completed; it completed and
should have succeeded; it found a branch that is to be made; or it did not find one that is
needed. -/
inductive Complains (call : Call) (w : Workspace) (spawn : Spawn) (cause : Cause) : Prop where
  | unfinished (verdict : w.runner.verdict spawn.args spawn.reply = .failed cause)
  | rejected (completion : Completion) (reply : spawn.reply.completion? = some completion)
      (bad : completion.ok = false) (kind : cause.kind = .toolInvocationFailed)
      (message : cause.message = completion.account spawn.args)
  | present (name : Value) (checkout : Flag) (creates : call = .createBranch name checkout)
      (looks : spawn.args = Command.lookWords name) (found : spawn.reply.isSuccess = true)
      (refused : cause = .branchExists name)
  | absent (name : Value) (needs : call.target? = some name)
      (looks : spawn.args = Command.lookWords name) (completion : Completion)
      (reply : spawn.reply.completion? = some completion) (bad : completion.ok = false)
      (refused : cause = .branchMissing name)

/-- A spawn that completed is judged by that. -/
lemma complaint?_of_completion {spawn : Spawn} {completion : Completion}
    (h : spawn.reply.completion? = some completion) :
    call.complaint? w spawn = call.objection? w spawn.args completion := by
  rw [complaint?, Runner.verdict_eq_answered_iff.2 h]

/-- The cause that a spawn gives a call is given in one of these ways. -/
lemma complains_of_complaint? {spawn : Spawn} {cause : Cause}
    (h : call.complaint? w spawn = some cause) : call.Complains w spawn cause := by
  rw [complaint?] at h
  cases hverdict : w.runner.verdict spawn.args spawn.reply with
  | failed cause' =>
    rw [hverdict] at h
    obtain rfl := Option.some.inj h
    exact .unfinished hverdict
  | aborted fault => simp [hverdict] at h
  | answered completion =>
    have hreply := Runner.verdict_eq_answered_iff.1 hverdict
    have hrejected : rejection? w spawn.args completion = some cause →
        call.Complains w spawn cause := by
      intro hrejection
      obtain ⟨hbad, hkind, hmessage⟩ := rejection?_eq_some hrejection
      exact .rejected completion hreply hbad hkind hmessage
    simp only [hverdict] at h
    cases call with
    | createBranch name checkout =>
      simp only [objection?] at h
      split at h
      · next hlooks =>
        cases hok : completion.ok with
        | false => simp [hok] at h
        | true =>
          simp only [hok, if_true, Option.some.injEq] at h
          have hsuccess := Reply.success?_eq_some_iff.2 ⟨hreply, hok⟩
          refine .present name checkout rfl hlooks ?_ h.symm
          rw [Reply.isSuccess, hsuccess, Option.isSome_some]
      · exact hrejected h
    | checkoutBranch name | deleteBranch name force | cleanup name dryRun =>
      simp only [objection?] at h
      split at h
      · next hlooks =>
        cases hok : completion.ok with
        | true => simp [hok] at h
        | false =>
          simp only [hok, Bool.false_eq_true, if_false, Option.some.injEq] at h
          exact .absent name rfl hlooks completion hreply hok h.symm
      · exact hrejected h
    | _ => exact hrejected h

/-- A spawn that never completed gives the failure that it came to. -/
lemma Complains.verdict_of_none {spawn : Spawn} {cause : Cause} (h : call.Complains w spawn cause)
    (hreply : spawn.reply.completion? = none) :
    w.runner.verdict spawn.args spawn.reply = .failed cause := by
  cases h with
  | unfinished verdict => exact verdict
  | rejected _ reply _ _ _ => cases hreply.symm.trans reply
  | present _ _ _ _ found _ =>
    rw [Reply.isSuccess, Reply.success?_eq, hreply] at found
    cases found
  | absent _ _ _ _ reply _ _ => cases hreply.symm.trans reply

/-- A failure for lack of time comes from a spawn that ran out of it. -/
lemma Complains.timedOut_of_kind {spawn : Spawn} {cause : Cause} (h : call.Complains w spawn cause)
    (hkind : cause.kind = .operationTimedOut) : spawn.reply = .timedOut := by
  cases h with
  | unfinished verdict =>
    rw [Runner.kind_of_verdict verdict] at hkind
    by_contra hreply
    rw [if_neg hreply] at hkind
    cases hkind
  | rejected _ _ _ kind _ => cases hkind.symm.trans kind
  | present _ _ _ _ _ refused | absent _ _ _ _ _ _ refused =>
    rw [refused] at hkind
    cases hkind

/-- A completed spawn that is the cause of a failed invocation had to succeed and did not. -/
lemma Complains.account_of_completion {spawn : Spawn} {cause : Cause}
    (h : call.Complains w spawn cause) {completion : Completion}
    (hreply : spawn.reply.completion? = some completion)
    (hkind : cause.kind = .toolInvocationFailed) :
    completion.ok = false ∧ cause.message = completion.account spawn.args := by
  cases h with
  | unfinished verdict =>
    rw [Runner.verdict_eq_answered_iff.2 hreply] at verdict
    cases verdict
  | rejected completion' reply bad _ message =>
    obtain rfl := Option.some.inj (hreply.symm.trans reply)
    exact ⟨bad, message⟩
  | present _ _ _ _ _ refused | absent _ _ _ _ _ _ refused =>
    rw [refused] at hkind
    cases hkind

/-- A failure because a branch exists comes from a spawn that found it. -/
lemma Complains.present_of_kind {spawn : Spawn} {cause : Cause} (h : call.Complains w spawn cause)
    (hkind : cause.kind = .branchExists) :
    ∃ name checkout, call = .createBranch name checkout ∧
      spawn.args = Command.lookWords name ∧ spawn.reply.isSuccess = true := by
  cases h with
  | unfinished verdict =>
    rw [Runner.kind_of_verdict verdict] at hkind
    split at hkind <;> cases hkind
  | rejected _ _ _ kind _ => cases hkind.symm.trans kind
  | present name checkout creates looks found _ => exact ⟨name, checkout, creates, looks, found⟩
  | absent _ _ _ _ _ _ refused =>
    rw [refused] at hkind
    cases hkind

/-- A failure because a branch is missing comes from a spawn that did not find it. -/
lemma Complains.absent_of_kind {spawn : Spawn} {cause : Cause} (h : call.Complains w spawn cause)
    (hkind : cause.kind = .branchNotFound) :
    ∃ name completion, call.target? = some name ∧ spawn.args = Command.lookWords name ∧
      spawn.reply.completion? = some completion ∧ completion.ok = false := by
  cases h with
  | unfinished verdict =>
    rw [Runner.kind_of_verdict verdict] at hkind
    split at hkind <;> cases hkind
  | rejected _ _ _ kind _ => cases hkind.symm.trans kind
  | present _ _ _ _ _ refused =>
    rw [refused] at hkind
    cases hkind
  | absent name needs looks completion reply bad _ =>
    exact ⟨name, completion, needs, looks, reply, bad⟩

/-- A spawn gives no cause with which the session itself refuses a call. -/
lemma Complains.not_isBar {spawn : Spawn} {cause : Cause} (h : call.Complains w spawn cause) :
    cause.kind.isBar = false := by
  cases h with
  | unfinished verdict =>
    rw [Runner.kind_of_verdict verdict]
    split <;> rfl
  | rejected _ _ _ kind _ => rw [kind]; rfl
  | present _ _ _ _ _ refused | absent _ _ _ _ _ _ refused => rw [refused]; rfl

end Call

namespace Session

open WorkTree.Action (FailsWith)

/-! ## Grounds -/

/-- On what ground a call fails after some spawns: the cause is that of the last one; or the
directory is missing, which is the cause. -/
inductive Ground (w : Workspace) (call : Call) (spawns : List Spawn) (cause : Cause) : Prop where
  | unreached (args : List Value) (look : w.host.look w.directory ≠ .directory)
      (missing : cause = .directoryMissing w.directory args)
  | last (spawn : Spawn) (last : spawns.getLast? = some spawn)
      (complaint : call.complaint? w spawn = some cause)

/-- What was started before does not matter to the ground of a failure. -/
lemma Ground.behind {w : Workspace} {call : Call} {spawns : List Spawn} {cause : Cause}
    (h : Ground w call spawns cause) (before : List Spawn) :
    Ground w call (before ++ spawns) cause := by
  cases h with
  | unreached args look missing => exact .unreached args look missing
  | last spawn last complaint =>
    refine .last spawn ?_ complaint
    rw [List.getLast?_append, last, Option.some_or]

/-- A ground is no cause with which the session itself refuses a call. -/
lemma Ground.not_isBar {w : Workspace} {call : Call} {spawns : List Spawn} {cause : Cause}
    (h : Ground w call spawns cause) : cause.kind.isBar = false := by
  cases h with
  | unreached args _ missing => rw [missing]; rfl
  | last spawn _ complaint => exact (Call.complains_of_complaint? complaint).not_isBar

/-- A ground of another sort than a failed invocation is given by the last spawn. -/
lemma Ground.exists_last {w : Workspace} {call : Call} {spawns : List Spawn} {cause : Cause}
    (h : Ground w call spawns cause)
    (hkind : cause.kind ≠ .toolInvocationFailed) :
    ∃ spawn, spawns.getLast? = some spawn ∧ call.Complains w spawn cause := by
  cases h with
  | unreached args _ missing => exact absurd (by rw [missing]; rfl) hkind
  | last spawn last complaint => exact ⟨spawn, last, Call.complains_of_complaint? complaint⟩

/-- A run that fails does so on a ground that its spawns give. -/
def Blames {α : Type} (w : Workspace) (call : Call) (r : Run State α) : Prop :=
  ∀ cause, r.outcome = .failed cause → Ground w call r.spawns cause

namespace Blames

variable {α β : Type} {w : Workspace} {call : Call}

/-- An action that does not fail needs no ground. -/
lemma of_never {action : Session α} (h : FailsWith (fun _ => False) action) (state : State) :
    Blames w call (action.run state) :=
  fun cause hfailed => (h state cause hfailed).elim

/-- Joined actions fail on the grounds of their parts. -/
lemma bind {first : Session α} {next : α → Session β} {state : State}
    (hfirst : Blames w call (first.run state))
    (hnext : ∀ value, (first.run state).outcome = .answered value →
      Blames w call ((next value).run (first.run state).state)) :
    Blames w call ((first >>= next).run state) := by
  intro cause hfailed
  cases houtcome : (first.run state).outcome with
  | answered value =>
    rw [Action.run_bind_of_answered houtcome] at hfailed
    rw [Action.spawns_bind_of_answered houtcome]
    exact (hnext value houtcome cause hfailed).behind _
  | failed cause' =>
    rw [Action.bind_run, houtcome] at hfailed ⊢
    obtain rfl := Outcome.failed.inj hfailed
    exact hfirst _ houtcome
  | aborted fault =>
    rw [Action.bind_run, houtcome] at hfailed
    cases hfailed

/-- An action with its answer written in another way fails on the same grounds. -/
lemma map {action : Session α} {state : State} (f : α → β) (h : Blames w call (action.run state)) :
    Blames w call ((f <$> action).run state) := by
  rw [← bind_pure_comp]
  exact h.bind fun value _ => .of_never (.pure _) _

end Blames

/-! ## Commands -/

variable {w : Workspace} {call : Call}

/-- A command whose answer may be turned down fails on the ground of its own spawn, if that is what
the call turns it down with.

**Proof sketch.** If the command fails without having been started, the directory is missing
(`git_directoryMissing`). If it is started, it comes to what the reply does (`git_launches`), and
that is a failure or a completed command that is turned down. -/
lemma blames_git {α : Type} {command : Command} {accept : Completion → Except Cause α}
    (h : ∀ args completion cause, command.Names args → accept completion = .error cause →
      call.objection? w args completion = some cause) (state : State) :
    Blames w call
      ((git w command >>= fun completion => Action.orFail (accept completion)).run state) := by
  rw [Action.run_bind_orFail]
  intro cause hfailed
  change Ground w call ((git w command).run state).spawns cause
  cases w.give_run command state.script with
  | never spawns _ unanswered =>
    rcases Outcome.failed_or_aborted unanswered with ⟨cause', hcause⟩ | ⟨fault, hfault⟩
    · rw [← git_outcome] at hcause
      rw [hcause] at hfailed
      obtain rfl := Outcome.failed.inj hfailed
      obtain ⟨hlook, hmissing⟩ := git_directoryMissing hcause spawns
      exact .unreached _ hlook hmissing
    · rw [git_outcome, hfault] at hfailed
      cases hfailed
  | once spawn spawns names _ _ =>
    have hspawns : ((git w command).run state).spawns = [spawn] := spawns
    have hlaunch := git_launches (hspawns ▸ List.mem_singleton_self spawn)
    rw [git_outcome, hlaunch.outcome] at hfailed
    refine .last spawn (by rw [hspawns]; rfl) ?_
    rw [Call.complaint?]
    cases hverdict : w.runner.verdict spawn.args spawn.reply with
    | answered completion =>
      simp only [hverdict, Outcome.judged] at hfailed
      cases haccept : accept completion with
      | ok value => simp [haccept] at hfailed
      | error cause' =>
        rw [haccept] at hfailed
        obtain rfl := Outcome.failed.inj hfailed
        exact h spawn.args completion _ names haccept
    | failed cause' =>
      rw [hverdict] at hfailed
      exact congrArg some (Outcome.failed.inj hfailed)
    | aborted fault =>
      rw [hverdict] at hfailed
      cases hfailed

/-- The texts that the arguments of a command are. -/
lemma wordsOf_of_names {command : Command} {args : List String} (h : command.Names args) :
    wordsOf command = args := by
  rw [wordsOf, h, Value.texts_map]
  rfl

/-- A command that has to succeed fails on the ground of its own spawn, unless it is one of the two
that a call makes something else of. -/
lemma blames_gitChecked {command : Command} (hlook : command.verb ≠ "show-ref")
    (hcurrent : command.verb ≠ "symbolic-ref") (state : State) :
    Blames w call ((gitChecked w command).run state) := by
  rw [gitChecked_eq]
  refine blames_git (fun args completion cause hnames hrejected => ?_) state
  have hquestion : args ≠ Question.branch.words := by
    rintro rfl
    exact hcurrent (Option.some.inj hnames.head?).symm
  rw [Call.objection?_of_names hnames hlook, Call.rejection?]
  rw [accept, wordsOf_of_names hnames] at hrejected
  split at hrejected
  · cases hrejected
  · next hok => simpa [hok, hquestion] using hrejected

/-- The command of a question fails on the ground of its own spawn. -/
lemma blames_loader (question : Question) (state : State) :
    Blames w call ((question.loader w).run state) := by
  rw [question.loader_eq]
  refine blames_git (fun args completion cause hnames hrejected => ?_) state
  have hargs : args = question.words := by
    rw [← Slot.words_question]
    refine Slot.names_iff.1 ?_
    cases question <;> exact hnames
  rw [Call.objection?_of_names hnames (by cases question <;> decide), Call.rejection?, hargs]
  rw [Question.accept] at hrejected
  split at hrejected
  · cases hrejected
  · next hok =>
    obtain rfl := Except.error.inj hrejected
    cases question <;> simp [hok, Question.refusal, Question.words, Command.currentBranchWords]

/-- Requiring a branch fails on the ground of the look for it, in a call that has to find it. -/
lemma blames_requireBranch {name : Value} (h : call.target? = some name) (state : State) :
    Blames w call ((requireBranch w name).run state) := by
  have heq : requireBranch w name = git w (.showBranch name.asText) >>= fun completion =>
      Action.orFail (if completion.ok then .ok () else .error (.branchMissing name)) := by
    rw [requireBranch, branchExists, bind_assoc]
    congr 1
    funext completion
    cases completion.ok <;> simp [Action.ensure, Action.orFail]
  rw [heq]
  refine blames_git (fun args completion cause hnames hmissing => ?_) state
  obtain rfl := Command.names_showBranch_iff.1 hnames
  cases hok : completion.ok with
  | true => simp [hok] at hmissing
  | false =>
    rw [Call.objection?_of_target h, if_pos rfl, hok]
    simpa [hok] using hmissing

end Session

end WorkTree
