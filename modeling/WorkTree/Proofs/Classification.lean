import WorkTree.Proofs.Session.History
import WorkTree.Proofs.Text.Line
import WorkTree.Proofs.Verdict

set_option relaxedAutoImplicit false
set_option autoImplicit false

/-!
# How commands are classified

A runner that is ready, given arguments that can be handed on, either finds no directory to run in
or starts git once. Which answer or failure a start comes to is decided by how the process ends: it
completes, its time is up, or it is not started at all. A command that has to succeed is classified
in the same way, and a completed command with an exit code other than zero is a failure with an
account of why.

## Main definitions

* `WorkTree.Reply.IsOrdinary` — the ways in which a process ends, faults apart.
* `WorkTree.Runner.IsReady`, `WorkTree.Runner.LacksDirectory` — what a runner needs.
* `WorkTree.Runner.Classifies`, `WorkTree.Runner.ClassifiesChecked` — how a command is classified,
  and how one that has to succeed is.

## Main results

* `WorkTree.Completion.failureDetail_eq` — the account of a failed command is the first of three
  texts that is not empty.
* `WorkTree.Runner.run_classifies` — every command is classified by how its process ends.
-/

namespace WorkTree

/-! ## Replies -/

/-- The ways in which a process ends: it completes, with a number for an exit code, or it is stopped
at the time limit, or it is not started. -/
def Reply.IsOrdinary : Reply → Prop
  | .completed code _ _ => ∃ n, code.whole = .ok n
  | .timedOut | .notFound | .refused _ _ => True
  | .interrupted _ => False

/-- A process that completed is taken for what it left behind. -/
lemma Reply.completion?_eq_some_iff {reply : Reply} (h : reply.IsOrdinary)
    {completion : Completion} :
    reply.completion? = some completion ↔ ∃ code out err,
      reply = .completed code out err ∧ completion = ⟨code, out.read, err.read⟩ := by
  cases reply with
  | completed code out err =>
    obtain ⟨n, hn⟩ := h
    simp [completion?, hn, Except.toOption, @eq_comm _ completion]
  | _ => simp [completion?]

/-! ## Accounts -/

namespace Completion

/-- The general account of why a command failed is a text without blanks at its ends. -/
lemma strip_failureText (args : List String) :
    Text.strip (failureText args) = failureText args := by
  have hstart : Text.NoBlankAtStart (failureText args).toList := by
    intro c hc
    obtain rfl : 'g' = c := by simpa [failureText] using hc
    decide
  have hend : Text.NoBlankAtEnd (failureText args).toList := by
    intro c hc
    rw [failureText, String.toList_append, List.getLast?_append] at hc
    obtain rfl : 'd' = c := Option.some.inj hc
    decide
  rw [Text.strip, Text.trim_of_ends hstart hend, String.ofList_toList]

/-- The general account of why a command failed is not empty. -/
lemma failureText_ne (args : List String) : failureText args ≠ "" := by
  simp [failureText]

/-- The account of why a command failed is the first of three texts that is not empty: what it
printed as errors and what it printed as output, each without the blanks at its ends, and a general
wording. -/
lemma failureDetail_eq (completion : Completion) (args : List String) :
    [Text.strip completion.err, Text.strip completion.out, failureText args].find? (· ≠ "") =
      some (completion.failureDetail args) := by
  have hgeneral := failureText_ne args
  by_cases herr : Text.strip completion.err = ""
  · by_cases hout : Text.strip completion.out = ""
    · simp [failureDetail, herr, hout, hgeneral]
    · simp [failureDetail, herr, hout]
  · simp [failureDetail, herr]

/-- The account of why a command failed is not empty. -/
lemma failureDetail_ne (completion : Completion) (args : List String) :
    completion.failureDetail args ≠ "" := by
  simpa using List.find?_some (completion.failureDetail_eq args)

/-- The account of why a command failed has no blanks at its ends. -/
lemma strip_failureDetail (completion : Completion) (args : List String) :
    Text.strip (completion.failureDetail args) = completion.failureDetail args := by
  have hstripped : ∀ s ∈ [Text.strip completion.err, Text.strip completion.out, failureText args],
      Text.strip s = s := by
    simp [strip_failureText]
  exact hstripped _ (List.mem_of_find?_eq_some (completion.failureDetail_eq args))

end Completion

/-! ## Runners -/

namespace Runner

/-- A runner is ready: the name of the program can be handed on, the limit in seconds is a finite
number, and the directory can be looked at. A limit of `2 ^ 31` milliseconds or more, and arguments
that the operating system has no encoding for, may still end the start of a process with an
exception; such an end is the reply `Reply.interrupted`, which is not an ordinary one. -/
structure IsReady (runner : Runner) (host : Host) : Prop where
  program : '\x00' ∉ runner.program.toList
  limit : ∃ seconds, runner.limit.seconds? = some (.finite seconds)
  directory : host.look runner.directory ≠ .nameTooLong

/-- The directory that a command is to run in is missing. -/
def LacksDirectory (runner : Runner) (host : Host) (isLocal : Bool) : Prop :=
  isLocal = true ∧ host.look runner.directory ≠ .directory

variable {runner : Runner} {host : Host} {args : List String} {isLocal : Bool} {script : Script}

/-- Words can be handed to the operating system when none of them holds the character U+0000. -/
lemma isPassable_iff {words : List String} :
    isPassable words = true ↔ ∀ word ∈ words, '\x00' ∉ word.toList := by
  have hnul : ∀ c : Char, c.toNat ≠ 0 ↔ c ≠ '\x00' := fun c =>
    not_congr (Char.toNat_inj (d := '\x00'))
  simp only [isPassable, List.all_eq_true, bne_iff_ne, hnul, ne_eq, List.forall_mem_ne']

/-- A limit that is a finite number of seconds can be written without a fraction. -/
lemma IsReady.exists_whole (h : runner.IsReady host) :
    ∃ n, runner.limit.value.whole = .ok n := by
  obtain ⟨seconds, hseconds⟩ := h.limit
  cases hlimit : runner.limit with
  | whole milliseconds pos => exact ⟨milliseconds, rfl⟩
  | yes => exact ⟨1, rfl⟩
  | real milliseconds pos =>
    rw [hlimit] at hseconds
    cases milliseconds with
    | finite x => exact ⟨x.truncate, rfl⟩
    | infinite _ | notANumber => cases hseconds

/-- An ordinary reply to a runner that is ready is no fault. -/
lemma verdict_ne_aborted (h : runner.IsReady host) {reply : Reply} (hreply : reply.IsOrdinary)
    (fault : Fault) : runner.verdict args reply ≠ .aborted fault := by
  cases reply with
  | completed code out err =>
    have hcompletion : (Reply.completed code out err).completion? =
        some ⟨code, out.read, err.read⟩ :=
      (Reply.completion?_eq_some_iff hreply).2 ⟨code, out, err, rfl, rfl⟩
    rw [verdict_eq_answered_iff.2 hcompletion]
    rintro ⟨⟩
  | timedOut =>
    obtain ⟨n, hn⟩ := h.exists_whole
    simp [verdict, conclude, hn, Action.orAbort, Action.bind_run]
  | notFound => rintro ⟨⟩
  | refused number message =>
    by_cases hnumber : number = some missingFile <;> simp [verdict, conclude, hnumber]
  | interrupted fault' => exact hreply.elim

/-! ## Starting -/

/-- A spawn is the start of the program with some arguments, in the directory if it is to run there,
and the process ends as the reply says. -/
structure HasStarted (runner : Runner) (args : List String) (isLocal : Bool) (reply : Reply)
    (spawn : Spawn) : Prop where
  program : spawn.invocation.program = runner.program
  args : spawn.args = args
  directory : spawn.invocation.directory = if isLocal then some runner.directory else none
  reply : spawn.reply = reply

/-- A command that lacks its directory fails without a trace. -/
lemma run_of_lacksDirectory (h : runner.IsReady host)
    (hlacks : runner.LacksDirectory host isLocal) :
    (runner.run host args isLocal).run script =
      { outcome := .failed (.directoryMissing runner.directory (args.map .text))
        state := script } := by
  obtain ⟨rfl, hlook⟩ := hlacks
  unfold run requireDirectory
  cases hdirectory : host.look runner.directory with
  | directory => exact absurd hdirectory hlook
  | nameTooLong => exact absurd hdirectory h.directory
  | noDirectory | device => rfl

/-- A command that does not lack its directory starts right away. -/
lemma run_of_not_lacksDirectory (hlacks : ¬ runner.LacksDirectory host isLocal) :
    (runner.run host args isLocal).run script = (runner.launch host args isLocal).run script := by
  have hstill : (runner.requireDirectory host (args.map .text) isLocal).run script =
      { outcome := .answered (), state := script } := by
    unfold requireDirectory
    cases isLocal with
    | false => rfl
    | true =>
      have hlook : host.look runner.directory = .directory := by
        by_contra hlook
        exact hlacks ⟨rfl, hlook⟩
      rw [hlook]
      rfl
  exact Action.run_bind_of_still hstill _

/-- A runner that is ready starts the program once, and the command comes to what the reply does. -/
lemma launch_of_isReady (h : runner.IsReady host) (hargs : ∀ arg ∈ args, '\x00' ∉ arg.toList)
    (isLocal : Bool) (script : Script) :
    (∃ spawn, ((runner.launch host args isLocal).run script).spawns = [spawn] ∧
      runner.HasStarted args isLocal (script.answer args).1 spawn) ∧
    ((runner.launch host args isLocal).run script).outcome =
      runner.verdict args (script.answer args).1 := by
  obtain ⟨seconds, hseconds⟩ := h.limit
  have hpass : isPassable (runner.program :: args) = true :=
    isPassable_iff.2 (List.forall_mem_cons.2 ⟨h.program, hargs⟩)
  obtain ⟨-, hspawns, -⟩ :=
    conclude_run runner args (script.answer args).1 (script.answer args).2
  rw [Run.spawns] at hspawns
  unfold launch
  rw [hseconds, hpass]
  refine ⟨⟨⟨{ program := runner.program, args
              directory := if isLocal then some runner.directory else none
              timeLimit := .finite seconds, environment := environmentFor host },
      (script.answer args).1⟩, ?_, rfl, rfl, rfl, rfl⟩, ?_⟩
  · simp [Action.bind_run, Run.spawns, hspawns]
  · simp [Action.bind_run, conclude_outcome]

/-! ## The classification -/

/-- How a command is classified. It fails without a start exactly when it lacks its directory;
otherwise it is started once, and how the process ends decides whether there is an answer, a failure
because the time was up, or a failure because there was no start. -/
structure Classifies (runner : Runner) (host : Host) (args : List String) (isLocal : Bool)
    (reply : Reply) (r : Run Script Completion) : Prop where
  unstarted : (r.spawns = [] ∧ ∃ cause, r.outcome = .failed cause) ↔
    runner.LacksDirectory host isLocal
  missing : runner.LacksDirectory host isLocal →
    ∃ cause, r.outcome = .failed cause ∧ cause.kind = .toolInvocationFailed
  started : ¬ runner.LacksDirectory host isLocal →
    ∃ spawn, r.spawns = [spawn] ∧ runner.HasStarted args isLocal reply spawn
  completed : ¬ runner.LacksDirectory host isLocal → ∀ completion,
    r.outcome = .answered completion ↔
      ∃ code out err, reply = .completed code out err ∧ completion = ⟨code, out.read, err.read⟩
  timedOut : ¬ runner.LacksDirectory host isLocal →
    ((∃ cause, r.outcome = .failed cause ∧ cause.kind = .operationTimedOut) ↔ reply = .timedOut)
  refused : ¬ runner.LacksDirectory host isLocal →
    ((∃ cause, r.outcome = .failed cause ∧ cause.kind = .toolInvocationFailed) ↔
      reply = .notFound ∨ ∃ number message, reply = .refused number message)

/-- How a command that has to succeed is classified, by what the command comes to. It has the same
starts. It answers what was printed exactly when the command has the exit code zero, it fails as the
command fails, and otherwise it fails with an account of why: the first of three texts that is not
empty, without blanks at its ends. -/
structure ClassifiesChecked (args : List String) (r : Run Script Completion)
    (checked : Run Script String) : Prop where
  spawns : checked.spawns = r.spawns
  succeeded : ∀ text, checked.outcome = .answered text ↔
    ∃ completion, r.outcome = .answered completion ∧ completion.hasCode 0 ∧ text = completion.out
  failed : ∀ cause, r.outcome = .failed cause → checked.outcome = .failed cause
  exited : ∀ completion, r.outcome = .answered completion → ¬ completion.hasCode 0 →
    ∃ cause message, checked.outcome = .failed cause ∧ cause.kind = .toolInvocationFailed ∧
      cause.failure.message = .text message ∧ message ≠ "" ∧ Text.strip message = message ∧
      [Text.strip completion.err, Text.strip completion.out,
        "git " ++ String.intercalate " " args ++ " failed"].find? (· ≠ "") = some message

/-- A reply that comes to a failure is no completed command, and a reply to a runner that is ready
which is no completed command comes to a failure. -/
lemma exists_verdict_eq_failed_iff (h : runner.IsReady host) (args : List String) {reply : Reply}
    (hreply : reply.IsOrdinary) :
    (∃ cause, runner.verdict args reply = .failed cause) ↔ reply.completion? = none := by
  cases hverdict : runner.verdict args reply with
  | answered completion => simp [verdict_eq_answered_iff.1 hverdict]
  | aborted fault => exact absurd hverdict (verdict_ne_aborted h hreply fault)
  | failed cause =>
    cases hcompletion : reply.completion? with
    | none => simp
    | some completion =>
      cases hverdict.symm.trans (verdict_eq_answered_iff.2 hcompletion)

/-- An ordinary reply comes to a failure of some sort exactly when it is no completed command and
calls for this sort. -/
lemma exists_verdict_kind_iff (h : runner.IsReady host) {reply : Reply} (hreply : reply.IsOrdinary)
    (kind : Failure.Kind) :
    (∃ cause, runner.verdict args reply = .failed cause ∧ cause.kind = kind) ↔
      reply.completion? = none ∧
        (if reply = .timedOut then .operationTimedOut else .toolInvocationFailed) = kind := by
  rw [← exists_verdict_eq_failed_iff h args hreply]
  constructor
  · rintro ⟨cause, hcause, rfl⟩
    exact ⟨⟨cause, hcause⟩, (kind_of_verdict hcause).symm⟩
  · rintro ⟨⟨cause, hcause⟩, rfl⟩
    exact ⟨cause, hcause, kind_of_verdict hcause⟩

/-- A command of a runner that is ready is classified by how the process ends. -/
lemma classifies_run (h : runner.IsReady host) (hargs : ∀ arg ∈ args, '\x00' ∉ arg.toList)
    (hreply : (script.answer args).1.IsOrdinary) :
    runner.Classifies host args isLocal (script.answer args).1
      ((runner.run host args isLocal).run script) := by
  by_cases hlacks : runner.LacksDirectory host isLocal
  · rw [run_of_lacksDirectory h hlacks]
    exact
      { unstarted := iff_of_true ⟨rfl, _, rfl⟩ hlacks
        missing := fun _ => ⟨_, rfl, rfl⟩
        started := absurd hlacks
        completed := absurd hlacks
        timedOut := absurd hlacks
        refused := absurd hlacks }
  · rw [run_of_not_lacksDirectory hlacks]
    obtain ⟨⟨spawn, hspawns, hstarted⟩, houtcome⟩ :=
      launch_of_isReady h hargs isLocal script
    refine
      { unstarted := iff_of_false ?_ hlacks
        missing := (absurd · hlacks)
        started := fun _ => ⟨spawn, hspawns, hstarted⟩
        completed := fun _ completion => ?_
        timedOut := fun _ => ?_
        refused := fun _ => ?_ }
    · rintro ⟨hnone, -⟩
      simp [hspawns] at hnone
    · rw [houtcome, verdict_eq_answered_iff, Reply.completion?_eq_some_iff hreply]
    · rw [houtcome, exists_verdict_kind_iff h hreply]
      cases (script.answer args).1 <;> simp [Reply.completion?]
    · rw [houtcome, exists_verdict_kind_iff h hreply]
      cases hcase : (script.answer args).1 with
      | completed code out err =>
        rw [hcase] at hreply
        simp [(Reply.completion?_eq_some_iff hreply).2 ⟨code, out, err, rfl, rfl⟩]
      | interrupted fault =>
        rw [hcase] at hreply
        exact hreply.elim
      | _ => simp [Reply.completion?]

/-- What a command that has to succeed comes to once the command is completed. -/
lemma runChecked_of_answered {completion : Completion}
    (h : ((runner.run host args isLocal).run script).outcome = .answered completion) :
    ((runner.runChecked host args isLocal).run script).spawns =
        ((runner.run host args isLocal).run script).spawns ∧
      ((runner.runChecked host args isLocal).run script).outcome =
        if completion.hasCode 0 then .answered completion.out
        else .failed (.exited runner.directory args completion) := by
  unfold runChecked Completion.ok
  rw [Action.run_bind_of_answered h]
  split <;> simp [Run.spawns]

/-- A command that has to succeed is classified by what the command comes to. -/
lemma classifiesChecked_runChecked :
    ClassifiesChecked args ((runner.run host args isLocal).run script)
      ((runner.runChecked host args isLocal).run script) := by
  cases houtcome : ((runner.run host args isLocal).run script).outcome with
  | answered completion =>
    obtain ⟨hspawns, hchecked⟩ := runChecked_of_answered houtcome
    refine
      { spawns := hspawns
        succeeded := fun text => ?_
        failed := fun cause h => nomatch houtcome.symm.trans h
        exited := fun completion' h hcode => ?_ }
    · rw [hchecked]
      by_cases hzero : completion.hasCode 0 <;>
        simp [houtcome, hzero, @eq_comm _ text completion.out]
    · obtain rfl : completion = completion' := Outcome.answered.inj (houtcome.symm.trans h)
      rw [if_neg hcode] at hchecked
      exact ⟨_, _, hchecked, rfl, rfl, completion.failureDetail_ne args,
        completion.strip_failureDetail args, completion.failureDetail_eq args⟩
  | failed cause =>
    refine ⟨?_, ?_, ?_, ?_⟩ <;> simp [runChecked, Action.bind_run, houtcome, Run.spawns]
  | aborted fault =>
    refine ⟨?_, ?_, ?_, ?_⟩ <;> simp [runChecked, Action.bind_run, houtcome, Run.spawns]

/-- Every command of a runner that is ready, with arguments that can be handed on, is classified by
how the process ends, and so is every command that has to succeed.

**Proof sketch.** A command that lacks its directory fails there and then (`run_of_lacksDirectory`).
Any other is started once and comes to the verdict on the reply (`launch_of_isReady`). The verdict
is an answer exactly when the reply is a completed process (`Reply.completion?_eq_some_iff`), it is
no fault (`verdict_ne_aborted`), and the sort of a failure tells whether the time was up
(`exists_verdict_kind_iff`). A command that has to succeed adds a test of the exit code, and what it
fails with is an account of why (`Completion.failureDetail_eq`). -/
theorem run_classifies (h : runner.IsReady host) (hargs : ∀ arg ∈ args, '\x00' ∉ arg.toList)
    (isLocal : Bool) (hreply : (script.answer args).1.IsOrdinary) :
    runner.Classifies host args isLocal (script.answer args).1
        ((runner.run host args isLocal).run script) ∧
      ClassifiesChecked args ((runner.run host args isLocal).run script)
        ((runner.runChecked host args isLocal).run script) :=
  ⟨classifies_run h hargs hreply, classifiesChecked_runChecked⟩

/-- A command prints blanks for its errors and ends with the exit code one. Why it failed is told
from its output. -/
theorem run_classifies_blankErrors :
    let runner := Workspace.plain.runner
    let host := Workspace.plain.host
    let args := ["fetch", "a b"]
    let reply : Reply := .completed (.int 1) (.text " no route\n") (.text "\t\n")
    let script : Script := ⟨[], fun _ => reply⟩
    let r := (runner.run host args true).run script
    let checked := (runner.runChecked host args true).run script
    let cause : Cause := .exited runner.directory args ⟨.int 1, " no route\n", "\t\n"⟩
    (runner.IsReady host ∧ ¬ runner.LacksDirectory host true ∧ reply.IsOrdinary) ∧
      (checked.outcome = .failed cause ∧ cause.message = "no route") ∧
        runner.Classifies host args true reply r ∧ ClassifiesChecked args r checked := by
  intro runner host args reply script r checked cause
  have hready : runner.IsReady host := ⟨by decide, ⟨_, rfl⟩, by decide⟩
  have hargs : ∀ arg ∈ args, '\x00' ∉ arg.toList := by decide
  have hreply : (script.answer args).1.IsOrdinary := ⟨1, rfl⟩
  have hlook : host.look runner.directory = .directory := by decide
  have hclassified := run_classifies hready hargs true hreply
  exact ⟨⟨hready, fun hlacks => hlacks.2 hlook, hreply⟩, ⟨by decide, by decide⟩, hclassified⟩

end Runner

end WorkTree
