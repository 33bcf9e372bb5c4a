import WorkTree.Proofs.Command

set_option relaxedAutoImplicit false
set_option autoImplicit false

/-!
# What a command comes to

A command that is started is started in the directory that it is to run in, which then exists, and
it comes to what the reply comes to: an answer, a failure or a fault. When it fails, the cause tells
its arguments. A command that fails without having been started has no directory to run in.

## Main definitions

* `WorkTree.Cause.arguments?` — the arguments of the command that a cause is about.
* `WorkTree.Runner.verdict` — what a reply to a command comes to.
* `WorkTree.Runner.Launches` — what is known of a command that was started.

## Main results

* `WorkTree.Runner.run_outcome_congr` — what a command comes to is a matter of the next reply.
* `WorkTree.Session.git_launches` — a command that was started ends as its reply says.
* `WorkTree.Session.git_failsWith`, `WorkTree.Session.gitChecked_failsWith` — the cause for which a
  command fails is about that command.
* `WorkTree.Session.git_directoryMissing` — a command that fails without having been started has no
  directory to run in.
-/

namespace WorkTree

open WorkTree.Action (Keeps FailsWith)

/-! ## Causes -/

/-- The arguments of the command that a cause is about, if it is about one. -/
def Cause.arguments? : Cause → Option (List Value)
  | .directoryMissing _ args => some args
  | .timedOut _ args _ | .programMissing _ args | .notStarted _ args _ | .exited _ args _
  | .headUnreadable args _ => some (args.map .text)
  | .notARepository _ | .headDetached _ | .nameInvalid _ _ | .branchExists _ | .branchMissing _
  | .branchCheckedOut _ => none

/-! ## Runners -/

namespace Runner

/-- What a reply to a command comes to. -/
def verdict (runner : Runner) (args : List String) (reply : Reply) : Outcome Completion :=
  ((runner.conclude args reply).run { entries := [], otherwise := fun _ => reply }).outcome

/-- What a reply comes to does not depend on the replies that are to come. -/
lemma conclude_outcome (runner : Runner) (args : List String) (reply : Reply) (script : Script) :
    ((runner.conclude args reply).run script).outcome = runner.verdict args reply := by
  unfold verdict
  cases reply with
  | completed code out err =>
    by_cases hok : (⟨code, out.read, err.read⟩ : Completion).ok = true
    · simp [conclude, Action.onlyIf, hok]
    · cases hcode : code.whole <;>
        simp [conclude, Action.onlyIf, hok, hcode, Action.orAbort, Action.run_map, Outcome.map]
  | timedOut =>
    cases hlimit : runner.limit.value.whole <;>
      simp [conclude, hlimit, Action.orAbort, Action.bind_run]
  | notFound => rfl
  | refused number message =>
    by_cases h : number = some missingFile <;> simp [conclude, h]
  | interrupted fault => rfl

/-- A reply comes to an answer exactly when it is taken for a completed command. -/
lemma verdict_eq_answered_iff {runner : Runner} {args : List String} {reply : Reply}
    {completion : Completion} :
    runner.verdict args reply = .answered completion ↔ reply.completion? = some completion :=
  (conclude_run runner args reply _).2.2 completion

/-- When a reply comes to a failure, the cause tells the arguments of the command. -/
lemma conclude_failsWith (runner : Runner) (args : List String) (reply : Reply) :
    FailsWith (fun cause => cause.arguments? = some (args.map .text))
      (runner.conclude args reply) := by
  cases reply with
  | completed code out err =>
    refine (FailsWith.onlyIf _ ?_).bind fun _ => .pure _
    exact (FailsWith.orAbort _).bind fun _ => .log _ _ _
  | timedOut =>
    refine (FailsWith.orAbort _).bind fun _ => ?_
    exact (FailsWith.log _ _ _).bind fun _ => .fail rfl
  | notFound => exact .fail rfl
  | refused number message =>
    rw [conclude]
    split
    · exact .fail rfl
    · exact .fail rfl
  | interrupted fault => exact .abort fault

/-- The cause for which a reply comes to a failure tells the arguments of the command. -/
lemma arguments?_of_verdict {runner : Runner} {args : List String} {reply : Reply} {cause : Cause}
    (h : runner.verdict args reply = .failed cause) : cause.arguments? = some (args.map .text) :=
  conclude_failsWith runner args reply _ cause h

/-- A reply that comes to a failure is that of a command whose time was up, or it is that of a
command that was not started; the sort of the failure tells which. -/
lemma kind_of_verdict {runner : Runner} {args : List String} {reply : Reply} {cause : Cause}
    (h : runner.verdict args reply = .failed cause) :
    cause.kind =
      if reply = .timedOut then .operationTimedOut else .toolInvocationFailed := by
  have hfails : FailsWith (fun cause => cause.kind =
      if reply = .timedOut then .operationTimedOut else .toolInvocationFailed)
      (runner.conclude args reply) := by
    cases reply with
    | completed code out err =>
      refine (FailsWith.onlyIf _ ?_).bind fun _ => .pure _
      exact (FailsWith.orAbort _).bind fun _ => .log _ _ _
    | timedOut =>
      refine (FailsWith.orAbort _).bind fun _ => ?_
      exact (FailsWith.log _ _ _).bind fun _ => .fail rfl
    | notFound => exact .fail rfl
    | refused number message =>
      rw [conclude]
      by_cases hnumber : number = some missingFile
      · rw [if_pos hnumber]
        exact .fail rfl
      · rw [if_neg hnumber]
        exact .fail rfl
    | interrupted fault => exact .abort fault
  exact hfails _ cause h

/-- When there is no directory to run in, the cause tells the arguments of the command. -/
lemma requireDirectory_failsWith (runner : Runner) (host : Host) (args : List Value)
    (isLocal : Bool) :
    FailsWith (fun cause => cause.arguments? = some args)
      (runner.requireDirectory host args isLocal) := by
  unfold requireDirectory
  split
  · exact .abort _
  · exact .fail rfl
  · exact .fail rfl
  · exact .pure ()

/-- Starting a program does not fail. -/
lemma start_failsWith {p : Cause → Prop} (invocation : Invocation) :
    FailsWith p (start invocation) :=
  fun _ _ h => nomatch h

/-- The cause for which a command fails tells its arguments. -/
lemma run_failsWith (runner : Runner) (host : Host) (args : List String) (isLocal : Bool) :
    FailsWith (fun cause => cause.arguments? = some (args.map .text))
      (runner.run host args isLocal) := by
  refine (requireDirectory_failsWith runner host (args.map .text) isLocal).bind fun _ => ?_
  refine (FailsWith.log _ _ _).bind fun _ => ?_
  split
  · exact .abort _
  · split
    · exact (start_failsWith _).bind fun reply => conclude_failsWith runner args reply
    · exact .abort _

/-- The cause for which a command that has to succeed fails tells its arguments. -/
lemma runChecked_failsWith (runner : Runner) (host : Host) (args : List String) (isLocal : Bool) :
    FailsWith (fun cause => cause.arguments? = some (args.map .text))
      (runner.runChecked host args isLocal) := by
  refine (run_failsWith runner host args isLocal).bind fun completion => ?_
  split
  · exact .pure _
  · exact .fail rfl

/-- What runs on the texts that some arguments are fails with causes that tell these arguments. -/
lemma withTexts_failsWith {α : Type} (runner : Runner) (host : Host) {args : List Value}
    (isLocal : Bool) {next : List String → Action Script α}
    (h : ∀ texts, FailsWith (fun cause => cause.arguments? = some (texts.map .text)) (next texts)) :
    FailsWith (fun cause => cause.arguments? = some args)
      (runner.withTexts host args isLocal next) := by
  unfold withTexts
  cases htexts : Value.texts args with
  | ok texts =>
    obtain rfl : args = texts.map .text := Value.eq_map_of_textsFrom htexts
    exact h texts
  | error fault =>
    exact (requireDirectory_failsWith runner host args isLocal).bind fun _ => .abort fault

/-! ## Starting -/

/-- What is known of a command that was started: the directory, which exists if the command is to
run there, and the outcome, which is what the reply comes to. -/
structure Launches (runner : Runner) (host : Host) (isLocal : Bool) (spawn : Spawn)
    (r : Run Script Completion) : Prop where
  directory : spawn.invocation.directory = if isLocal then some runner.directory else none
  look : isLocal = true → host.look runner.directory = .directory
  outcome : r.outcome = runner.verdict spawn.args spawn.reply

/-- Past the directory, a command is ended by a fault before it is started, or it is started and
ends as its reply says. -/
lemma launch_outcome (runner : Runner) (host : Host) (args : List String) (isLocal : Bool)
    (script : Script) :
    (((runner.launch host args isLocal).run script).spawns = [] ∧
      ∃ fault, ((runner.launch host args isLocal).run script).outcome = .aborted fault) ∨
    ∃ spawn : Spawn, ((runner.launch host args isLocal).run script).spawns = [spawn] ∧
      spawn.invocation.directory = (if isLocal then some runner.directory else none) ∧
        ((runner.launch host args isLocal).run script).outcome =
          runner.verdict spawn.args spawn.reply := by
  have hlog := run_debug
    ("git " ++ commandLine args ++ " (cwd=" ++ runner.directory.text ++ ")") script
  unfold launch
  rw [Action.run_bind_of_answered (congrArg Run.outcome hlog), hlog]
  cases runner.limit.seconds? with
  | none => exact .inl ⟨rfl, _, rfl⟩
  | some timeLimit =>
    dsimp only
    split
    · obtain ⟨-, hspawns, -⟩ :=
        conclude_run runner args (script.answer args).1 (script.answer args).2
      rw [Run.spawns] at hspawns
      refine .inr ⟨⟨{ program := runner.program, args
                      directory := if isLocal then some runner.directory else none
                      timeLimit, environment := environmentFor host }, (script.answer args).1⟩,
        ?_, rfl, ?_⟩
      · simp [Action.bind_run, Run.spawns, hspawns]
      · simp [Action.bind_run, Spawn.args, conclude_outcome]
    · exact .inl ⟨rfl, _, rfl⟩

/-- Past the directory, a command comes to the same when the next reply to it is the same. -/
lemma launch_outcome_congr {runner : Runner} {host : Host} {args : List String} {isLocal : Bool}
    {script script' : Script} (h : (script.answer args).1 = (script'.answer args).1) :
    ((runner.launch host args isLocal).run script).outcome =
      ((runner.launch host args isLocal).run script').outcome := by
  unfold launch
  cases runner.limit.seconds? with
  | none => rfl
  | some seconds =>
    cases hpass : isPassable (runner.program :: args) with
    | false => simp [Action.bind_run]
    | true => simp [Action.bind_run, conclude_outcome, h]

/-- A command comes to the same when the next reply to it is the same. -/
lemma run_outcome_congr {runner : Runner} {host : Host} {args : List String} {isLocal : Bool}
    {script script' : Script} (h : (script.answer args).1 = (script'.answer args).1) :
    ((runner.run host args isLocal).run script).outcome =
      ((runner.run host args isLocal).run script').outcome := by
  have hlaunch : ((runner.launch host args isLocal).run script).outcome =
      ((runner.launch host args isLocal).run script').outcome :=
    launch_outcome_congr h
  unfold run requireDirectory
  split <;> simp [Action.bind_run, hlaunch]

/-- A command that is to run in the directory is not kept from it exactly when that exists. -/
lemma requireDirectory_answered_iff {runner : Runner} {host : Host} {args : List Value}
    {isLocal : Bool} {script : Script} :
    ((runner.requireDirectory host args isLocal).run script).outcome = .answered () ↔
      (isLocal = true → host.look runner.directory = .directory) := by
  unfold requireDirectory
  cases isLocal with
  | false => simp
  | true => cases host.look runner.directory <;> simp

/-- A command that is started ends as its reply says. -/
lemma run_launches {runner : Runner} {host : Host} {args : List String} {isLocal : Bool}
    {script : Script} {spawn : Spawn}
    (h : spawn ∈ ((runner.run host args isLocal).run script).spawns) :
    runner.Launches host isLocal spawn ((runner.run host args isLocal).run script) := by
  obtain ⟨hstate, hevents⟩ := requireDirectory_run runner host (args.map .text) isLocal script
  unfold run at h ⊢
  cases hanswered :
      ((runner.requireDirectory host (args.map .text) isLocal).run script).outcome.isAnswered with
  | false =>
    obtain ⟨-, -, hnone⟩ := Action.run_bind_of_not_answered hanswered
      fun _ => runner.launch host args isLocal
    rw [Run.spawns, hnone, hevents] at h
    cases h
  | true =>
    obtain ⟨⟨⟩, hvalue⟩ := Outcome.isAnswered_iff.1 hanswered
    rw [Action.run_bind_of_answered hvalue, hstate, hevents] at h ⊢
    rw [List.nil_append] at h ⊢
    rcases launch_outcome runner host args isLocal script with
      ⟨hspawns, -⟩ | ⟨spawn', hspawns, hdirectory, houtcome⟩
    · rw [Run.spawns] at hspawns h
      rw [hspawns] at h
      cases h
    · rw [Run.spawns] at hspawns h
      obtain rfl : spawn = spawn' := by simpa [hspawns] using h
      exact ⟨hdirectory, requireDirectory_answered_iff.1 hvalue, houtcome⟩

/-- A command is kept from its directory by failure only when that is missing. -/
lemma requireDirectory_failed {runner : Runner} {host : Host} {args : List Value} {isLocal : Bool}
    {script : Script} {cause : Cause}
    (h : ((runner.requireDirectory host args isLocal).run script).outcome = .failed cause) :
    host.look runner.directory ≠ .directory ∧ cause = .directoryMissing runner.directory args := by
  unfold requireDirectory at h
  cases isLocal with
  | false => simp at h
  | true =>
    cases hlook : host.look runner.directory with
    | directory | nameTooLong => simp [hlook] at h
    | noDirectory | device =>
      simp only [hlook, Action.run_fail, Outcome.failed.injEq] at h
      exact ⟨nofun, h.symm⟩

/-- A command that fails without having been started has no directory to run in. -/
lemma directoryMissing_of_failed {runner : Runner} {host : Host} {args : List String}
    {isLocal : Bool} {script : Script} {cause : Cause}
    (h : ((runner.run host args isLocal).run script).outcome = .failed cause)
    (hspawns : ((runner.run host args isLocal).run script).spawns = []) :
    host.look runner.directory ≠ .directory ∧
      cause = .directoryMissing runner.directory (args.map .text) := by
  unfold run at h hspawns
  cases houtcome : ((runner.requireDirectory host (args.map .text) isLocal).run script).outcome with
  | answered value =>
    -- Past the directory, only a command that is started fails.
    rw [Action.run_bind_of_answered houtcome] at h
    rw [Action.spawns_bind_of_answered houtcome] at hspawns
    rcases launch_outcome runner host args isLocal
        ((runner.requireDirectory host (args.map .text) isLocal).run script).state with
      ⟨-, fault, haborted⟩ | ⟨spawn, honce, -⟩
    · cases h.symm.trans haborted
    · simp [honce] at hspawns
  | failed cause' =>
    rw [Action.bind_run, houtcome] at h
    obtain rfl := Outcome.failed.inj h
    exact requireDirectory_failed houtcome
  | aborted fault =>
    rw [Action.bind_run, houtcome] at h
    cases h

end Runner

/-! ## Commands of a session -/

namespace Session

/-- A command that is started ends as its reply says. -/
lemma git_launches {w : Workspace} {command : Command} {state : State} {spawn : Spawn}
    (h : spawn ∈ ((git w command).run state).spawns) :
    w.runner.Launches w.host command.isLocal spawn ((w.give command).run state.script) := by
  rw [git_spawns] at h
  unfold Workspace.give Runner.withTexts at h ⊢
  cases htexts : Value.texts command.args with
  | ok args =>
    simp only [htexts] at h ⊢
    exact Runner.run_launches h
  | error fault =>
    obtain ⟨-, hevents⟩ :=
      Runner.requireDirectory_run w.runner w.host command.args command.isLocal state.script
    simp only [htexts] at h
    rw [Run.spawns, Action.bind_run] at h
    split at h <;> simp [hevents] at h

/-- A command that fails without having been started has no directory to run in. -/
lemma git_directoryMissing {w : Workspace} {command : Command} {state : State} {cause : Cause}
    (h : ((git w command).run state).outcome = .failed cause)
    (hspawns : ((git w command).run state).spawns = []) :
    w.host.look w.directory ≠ .directory ∧
      cause = .directoryMissing w.directory command.args := by
  rw [git_spawns] at hspawns
  rw [git_outcome] at h
  unfold Workspace.give Runner.withTexts at h hspawns
  cases htexts : Value.texts command.args with
  | ok args =>
    simp only [htexts] at h hspawns
    obtain ⟨hlook, hcause⟩ := Runner.directoryMissing_of_failed h hspawns
    rw [Value.eq_map_of_textsFrom htexts]
    exact ⟨hlook, hcause⟩
  | error fault =>
    simp only [htexts] at h
    cases houtcome : ((w.runner.requireDirectory w.host command.args command.isLocal).run
        state.script).outcome with
    | failed cause' =>
      rw [Action.bind_run, houtcome] at h
      obtain rfl := Outcome.failed.inj h
      exact Runner.requireDirectory_failed houtcome
    | answered _ | aborted _ =>
      rw [Action.bind_run, houtcome] at h
      cases h

/-- A command that fails where its directory exists was started. -/
lemma git_spawns_ne_nil {w : Workspace} {command : Command} {state : State} {cause : Cause}
    (hlook : w.host.look w.directory = .directory)
    (h : ((git w command).run state).outcome = .failed cause) :
    ((git w command).run state).spawns ≠ [] :=
  fun hspawns => (git_directoryMissing h hspawns).1 hlook

/-- Only the question for the version does not run in the directory. -/
lemma isLocal_of_names {command : Command} {args : List String} (h : command.Names args)
    (hargs : args ≠ ["--version"]) : command.isLocal = true := by
  cases command with
  | version => exact absurd ((Command.names_iff rfl).1 h) hargs
  | _ => rfl

/-- Whatever is started apart from the question for the version is started in the directory of the
session, which then exists. -/
lemma git_keeps_directory (w : Workspace) (command : Command) :
    Keeps (.every fun spawn => spawn.args ≠ ["--version"] →
      spawn.invocation.directory = some w.directory ∧ w.host.look w.directory = .directory)
      (git w command) := by
  intro state spawn hmem hargs
  have hlaunch := git_launches hmem
  have hlocal : command.isLocal = true := by
    rw [← Run.spawns, git_spawns] at hmem
    cases w.give_run command state.script with
    | never spawns _ _ => simp [spawns] at hmem
    | once spawn' spawns hnames _ _ =>
      obtain rfl : spawn = spawn' := by simpa [spawns] using hmem
      exact isLocal_of_names hnames hargs
  refine ⟨hlaunch.directory.trans (if_pos hlocal), hlaunch.look hlocal⟩

/-- The cause for which a command fails tells its arguments. -/
lemma git_failsWith (w : Workspace) (command : Command) :
    FailsWith (fun cause => cause.arguments? = some command.args) (git w command) := by
  intro state
  exact Runner.withTexts_failsWith w.runner w.host command.isLocal
    (fun texts => Runner.run_failsWith w.runner w.host texts command.isLocal) state.script

/-- The cause for which a command that has to succeed fails tells its arguments. -/
lemma gitChecked_failsWith (w : Workspace) (command : Command) :
    FailsWith (fun cause => cause.arguments? = some command.args) (gitChecked w command) := by
  intro state
  exact Runner.withTexts_failsWith w.runner w.host command.isLocal
    (fun texts => Runner.runChecked_failsWith w.runner w.host texts command.isLocal) state.script

end Session

end WorkTree
