import WorkTree.Proofs.Action
import WorkTree.Session.Basic

set_option relaxedAutoImplicit false
set_option autoImplicit false

/-!
# What giving a command does

A command is either not started at all, or started once, with the arguments that it stands for.
Only a command that was started and ran to its end is answered, and the cache has no part in it.
A command that has to succeed is answered with its output exactly when it ends with the exit code
zero.

## Main definitions

* `WorkTree.Reply.completion?` — the completed command that a reply is taken for.
* `WorkTree.Reply.success?` — the same, if the exit code is zero.
* `WorkTree.Workspace.give` — a command, given to git from scratch.
* `WorkTree.Command.Names` — some arguments are those of a command.
* `WorkTree.Command.verb` — the word that a command begins with.
* `WorkTree.Spawn.alters` — a spawn is one of a command that may change something.

## Main results

* `WorkTree.Workspace.give_run` — the two ways in which giving a command ends.
* `WorkTree.Session.gitChecked_eq` — a command that has to succeed is a command and a test.
* `WorkTree.Session.gitChecked_run` — the three ways in which it ends.
-/

namespace WorkTree

/-! ## Replies -/

/-- The completed command that a reply is taken for. An exit code that is no number ends in a fault
when it is logged. -/
def Reply.completion? : Reply → Option Completion
  | .completed code out err => code.whole.toOption.map fun _ => ⟨code, out.read, err.read⟩
  | .timedOut | .notFound | .refused _ _ | .interrupted _ => none

/-- The completed command of a reply with the exit code zero. -/
def Reply.success? : Reply → Option Completion
  | .completed code out err =>
    let completion : Completion := ⟨code, out.read, err.read⟩
    if completion.ok then some completion else none
  | .timedOut | .notFound | .refused _ _ | .interrupted _ => none

/-- Whether a reply has the exit code zero. -/
def Reply.isSuccess (reply : Reply) : Bool :=
  reply.success?.isSome

/-- What agrees with an integer is a number. -/
lemma Value.whole_of_agrees_int {v : Value} {n : Int} (h : v.agrees (.int n) = true) :
    ∃ m, v.whole = .ok m := by
  cases v with
  | bool b => exact ⟨b.toNat, rfl⟩
  | int m => exact ⟨m, rfl⟩
  | real x =>
    cases x with
    | finite y => exact ⟨y.truncate, rfl⟩
    | infinite _ => simp [agrees, quotient?] at h
    | notANumber => simp [agrees, quotient?] at h
  | _ => simp [agrees, quotient?] at h

/-- The replies with the exit code zero are the completed ones that are in order. -/
lemma Reply.success?_eq (reply : Reply) :
    reply.success? = reply.completion?.filter Completion.ok := by
  cases reply with
  | completed code out err =>
    by_cases hok : (⟨code, out.read, err.read⟩ : Completion).ok = true
    · obtain ⟨m, hm⟩ := Value.whole_of_agrees_int (v := code) (n := 0) hok
      simp [success?, completion?, hok, hm, Except.toOption, Option.filter_some]
    · cases hcode : code.whole <;>
        simp [success?, completion?, hok, hcode, Except.toOption, Option.filter_some]
  | _ => rfl

/-- A reply with the exit code zero is a completed command in order. -/
lemma Reply.success?_eq_some_iff {reply : Reply} {completion : Completion} :
    reply.success? = some completion ↔
      reply.completion? = some completion ∧ completion.ok = true := by
  rw [success?_eq, Option.filter_eq_some_iff]

/-! ## Runners -/

namespace Runner

/-- Writing to the log of the runner leaves the script as it is and starts nothing. -/
@[simp]
lemma run_debug (message : String) (script : Script) :
    (debug message).run script =
      { outcome := .answered (), state := script,
        events := [.logged ⟨.debug, .runner, message⟩] } :=
  rfl

/-- A start takes the next reply of the script. -/
@[simp]
lemma run_start (invocation : Invocation) (script : Script) :
    (start invocation).run script =
      { outcome := .answered (script.answer invocation.args).1
        state := (script.answer invocation.args).2
        events := [.started invocation (script.answer invocation.args).1] } :=
  rfl

/-- What a reply comes to: it is answered exactly when it is taken for a completed command. -/
lemma conclude_run (runner : Runner) (args : List String) (reply : Reply) (script : Script) :
    ((runner.conclude args reply).run script).state = script ∧
      ((runner.conclude args reply).run script).spawns = [] ∧
      ∀ completion, ((runner.conclude args reply).run script).outcome = .answered completion ↔
        reply.completion? = some completion := by
  cases reply with
  | completed code out err =>
    by_cases hok : (⟨code, out.read, err.read⟩ : Completion).ok = true
    · obtain ⟨m, hm⟩ := Value.whole_of_agrees_int (v := code) (n := 0) hok
      simp [conclude, Action.onlyIf, hok, Reply.completion?, hm, Except.toOption, Run.spawns]
    · cases hcode : code.whole with
      | ok m =>
        simp [conclude, Action.onlyIf, hok, Reply.completion?, hcode, Except.toOption,
          Action.orAbort, Action.run_map, Outcome.map, Run.spawns]
      | error fault =>
        simp [conclude, Action.onlyIf, hok, Reply.completion?, hcode, Except.toOption,
          Action.orAbort, Action.run_map, Outcome.map, Run.spawns]
  | timedOut =>
    cases hlimit : runner.limit.value.whole <;>
      simp [conclude, Reply.completion?, hlimit, Action.orAbort, Action.bind_run, Run.spawns]
  | notFound => simp [conclude, Reply.completion?, Run.spawns]
  | refused number message =>
    by_cases h : number = some missingFile <;> simp [conclude, Reply.completion?, h, Run.spawns]
  | interrupted fault => simp [conclude, Reply.completion?, Run.spawns]

/-- The directory is looked at without a trace. -/
lemma requireDirectory_run (runner : Runner) (host : Host) (args : List Value) (isLocal : Bool)
    (script : Script) :
    ((runner.requireDirectory host args isLocal).run script).state = script ∧
      ((runner.requireDirectory host args isLocal).run script).events = [] := by
  unfold requireDirectory
  split <;> exact ⟨rfl, rfl⟩

/-- How git is started with arguments of some sort: not at all, or once, and then it is answered
exactly when the reply is taken for a completed command. -/
inductive Starts (script : Script) (sort : List String → Prop) (r : Run Script Completion) :
    Prop where
  | never (spawns : r.spawns = []) (state : r.state = script)
      (outcome : r.outcome.isAnswered = false)
  | once (spawn : Spawn) (spawns : r.spawns = [spawn]) (args : sort spawn.args)
      (reply : script.answer spawn.args = (spawn.reply, r.state))
      (outcome : ∀ completion,
        r.outcome = .answered completion ↔ spawn.reply.completion? = some completion)

/-- Arguments of one sort are arguments of a wider one. -/
lemma Starts.mono {script : Script} {sort sort' : List String → Prop} {r : Run Script Completion}
    (h : Starts script sort r) (hsort : ∀ args, sort args → sort' args) :
    Starts script sort' r := by
  cases h with
  | never spawns state outcome => exact .never spawns state outcome
  | once spawn spawns args reply outcome =>
    exact .once spawn spawns (hsort _ args) reply outcome

/-- What runs behind an action that leaves nothing behind starts git in the same way. -/
lemma Starts.bind {script : Script} {sort : List String → Prop} {first : Action Script Unit}
    (next : Unit → Action Script Completion) (hstate : (first.run script).state = script)
    (hspawns : (first.run script).spawns = [])
    (hnext : Starts script sort ((next ()).run script)) :
    Starts script sort ((first >>= next).run script) := by
  rw [Run.spawns] at hspawns
  cases hfirst : (first.run script).outcome.isAnswered with
  | false =>
    obtain ⟨houtcome, hstate', hevents⟩ := Action.run_bind_of_not_answered hfirst next
    refine .never ?_ (hstate'.trans hstate) houtcome
    rw [Run.spawns, hevents, hspawns]
  | true =>
    obtain ⟨⟨⟩, hvalue⟩ := Outcome.isAnswered_iff.1 hfirst
    rw [Action.run_bind_of_answered hvalue next, hstate]
    cases hnext with
    | never spawns state outcome =>
      refine .never ?_ state outcome
      simpa [Run.spawns, hspawns] using spawns
    | once spawn spawns args reply outcome =>
      refine .once spawn ?_ args reply outcome
      simpa [Run.spawns, hspawns] using spawns

/-- A command is started at most once.

**Proof sketch.** The log record comes first. A limit that is too large and arguments that cannot be
passed end the run before the program is started; otherwise the spawn is the next entry of the
trace, and what the reply comes to (`conclude_run`) adds none. -/
lemma launch_run (runner : Runner) (host : Host) (args : List String) (isLocal : Bool)
    (script : Script) :
    Starts script (· = args) ((runner.launch host args isLocal).run script) := by
  refine Starts.bind _ rfl rfl ?_
  cases runner.limit.seconds? with
  | none => exact .never rfl rfl rfl
  | some timeLimit =>
    dsimp only
    split
    · obtain ⟨hstate, hspawns, houtcome⟩ :=
        conclude_run runner args (script.answer args).1 (script.answer args).2
      rw [Run.spawns] at hspawns
      refine .once ⟨{ program := runner.program, args
                      directory := if isLocal then some runner.directory else none
                      timeLimit, environment := environmentFor host }, (script.answer args).1⟩
        ?_ rfl ?_ ?_
      · simp [Action.bind_run, Run.spawns, hspawns]
      · simp [Action.bind_run, Spawn.args, hstate]
      · simpa [Action.bind_run] using houtcome
    · exact .never rfl rfl rfl

/-- A command whose arguments are texts is started at most once. -/
lemma run_run (runner : Runner) (host : Host) (args : List String) (isLocal : Bool)
    (script : Script) : Starts script (· = args) ((runner.run host args isLocal).run script) := by
  obtain ⟨hstate, hevents⟩ :=
    requireDirectory_run runner host (args.map .text) isLocal script
  refine Starts.bind _ hstate ?_ (launch_run runner host args isLocal script)
  rw [Run.spawns, hevents, spawnsOf_nil]

end Runner

/-! ## Commands of a session -/

/-- Some arguments are those of a command. -/
def Command.Names (command : Command) (args : List String) : Prop :=
  command.args = args.map .text

/-- The word that a command begins with. -/
def Command.verb : Command → String
  | .version => "--version"
  | .insideWorkTree => "rev-parse"
  | .status => "status"
  | .currentBranch => "symbolic-ref"
  | .remotes => "remote"
  | .showBranch _ => "show-ref"
  | .listRefs | .listMerged _ => "for-each-ref"
  | .createBranch _ | .deleteBranch _ _ => "branch"
  | .createAndCheckout _ | .checkout _ => "checkout"
  | .stageAll | .stage _ => "add"
  | .commitStaged _ | .commitPaths _ _ => "commit"
  | .push _ _ => "push"

/-- The arguments of a command begin with its word. -/
lemma Command.Names.head? {command : Command} {args : List String} (h : command.Names args) :
    args.head? = some command.verb := by
  have hverb : command.args.head? = some (.text command.verb) := by cases command <;> rfl
  rw [Names] at h
  rw [h, List.head?_map] at hverb
  cases hargs : args.head? with
  | none => simp [hargs] at hverb
  | some word => simpa [hargs] using hverb

/-- The arguments of a command that is made of some words are these words. -/
lemma Command.names_iff {command : Command} {args words : List String}
    (hwords : command.args = Command.words words) : command.Names args ↔ args = words := by
  rw [Names, hwords, Command.words, List.map_inj_right fun _ _ htext => Value.text.inj htext]
  exact eq_comm

/-- Whatever stands among the arguments of a command that is given is a text. -/
lemma Command.Names.exists_text {command : Command} {args : List String}
    (h : command.Names args) (value : Value) (hmem : value ∈ command.args) :
    ∃ text, value = .text text := by
  rw [Names] at h
  obtain ⟨text, -, rfl⟩ := List.mem_map.1 (h ▸ hmem)
  exact ⟨text, rfl⟩

/-- The words that the commands begin with that may change something. -/
def alteringVerbs : List String :=
  ["branch", "checkout", "add", "commit", "push"]

/-- Whether a spawn is one of a command that may change something. -/
def Spawn.alters (spawn : Spawn) : Bool :=
  spawn.args.head?.any alteringVerbs.contains

/-- The spawns of the commands that may change something are those of the commands that do not only
ask. -/
lemma Command.Names.alters {command : Command} {spawn : Spawn} (h : command.Names spawn.args) :
    spawn.alters = !command.isReadOnly := by
  rw [Spawn.alters, h.head?, Option.any_some]
  cases command <;> simp [alteringVerbs, verb, isReadOnly]

/-- Values that are accepted as texts are these texts. -/
lemma Value.eq_map_of_textsFrom {position : Nat} {values : List Value} {ss : List String}
    (h : textsFrom position values = .ok ss) : values = ss.map .text := by
  induction values generalizing position ss with
  | nil =>
    obtain rfl : [] = ss := by simpa [textsFrom] using h
    rfl
  | cons v rest ih =>
    cases v with
    | text s =>
      cases hrest : textsFrom (position + 1) rest with
      | ok rest' =>
        obtain rfl : s :: rest' = ss := by simpa [textsFrom, hrest, Except.map] using h
        simp [← ih hrest]
      | error fault => simp [textsFrom, hrest, Except.map] at h
    | _ => simp [textsFrom] at h

namespace Workspace

/-- A command, given to git from scratch. -/
def give (w : Workspace) (command : Command) : Action Script Completion :=
  w.runner.withTexts w.host command.args command.isLocal fun args =>
    w.runner.run w.host args command.isLocal

/-- A command is given to git at most once, with its own arguments. -/
lemma give_run (w : Workspace) (command : Command) (script : Script) :
    Runner.Starts script command.Names ((w.give command).run script) := by
  unfold give Runner.withTexts
  cases htexts : Value.texts command.args with
  | ok args =>
    refine (Runner.run_run w.runner w.host args command.isLocal script).mono ?_
    rintro _ rfl
    exact Value.eq_map_of_textsFrom htexts
  | error fault =>
    obtain ⟨hstate, hevents⟩ :=
      Runner.requireDirectory_run w.runner w.host command.args command.isLocal script
    refine Runner.Starts.bind (fun _ => Action.abort fault) hstate ?_ (.never rfl rfl rfl)
    rw [Run.spawns, hevents, spawnsOf_nil]

end Workspace

namespace Session

/-- A runner's action, as part of a session, leaves the cache as it is. -/
lemma run_ofRunner {α : Type} (action : Action Script α) (state : State) :
    (ofRunner action).run state =
      { outcome := (action.run state.script).outcome
        state := { state with script := (action.run state.script).state }
        events := (action.run state.script).events } :=
  rfl

/-- Joined actions of a runner are joined actions of the session. -/
lemma ofRunner_bind {α β : Type} (first : Action Script α) (next : α → Action Script β) :
    ofRunner (first >>= next) = ofRunner first >>= fun value => ofRunner (next value) := by
  funext state
  change (ofRunner (first >>= next)).run state =
    (ofRunner first >>= fun value => ofRunner (next value)).run state
  rw [run_ofRunner, Action.bind_run, Action.bind_run, run_ofRunner]
  cases (first.run state.script).outcome <;> rfl

/-- The texts that the arguments of a command are, once it has been answered. -/
def wordsOf (command : Command) : List String :=
  (Value.texts command.args).toOption.getD []

/-- What a completed command that has to succeed comes to: its output, or a failure that tells the
exit code. -/
def accept (w : Workspace) (command : Command) (completion : Completion) : Except Cause String :=
  if completion.ok then .ok completion.out
  else .error (.exited w.directory (wordsOf command) completion)

/-- A command that has to succeed is a command whose exit code is looked at. -/
lemma gitChecked_eq (w : Workspace) (command : Command) :
    gitChecked w command =
      git w command >>= fun completion => Action.orFail (accept w command completion) := by
  unfold gitChecked git
  cases htexts : Value.texts command.args with
  | ok args =>
    simp only [Runner.withTexts, htexts, Runner.runChecked, accept, wordsOf, Except.toOption,
      Option.getD_some, ofRunner_bind]
    congr 1
    funext completion
    split <;> rfl
  | error fault =>
    simp only [Runner.withTexts, htexts, ofRunner_bind, bind_assoc]
    rfl

/-- A command whose answer is never turned down. -/
lemma git_eq_bind_orFail (w : Workspace) (command : Command) :
    git w command = git w command >>= fun completion => Action.orFail (.ok completion) :=
  (bind_pure _).symm

/-- Giving a command starts what it starts from scratch. -/
lemma git_spawns (w : Workspace) (command : Command) (state : State) :
    ((git w command).run state).spawns = ((w.give command).run state.script).spawns :=
  rfl

/-- Giving a command is answered as it is from scratch. -/
lemma git_outcome (w : Workspace) (command : Command) (state : State) :
    ((git w command).run state).outcome = ((w.give command).run state.script).outcome :=
  rfl

/-- A command that is answered was started, with its arguments, and completed so. -/
lemma git_answered {w : Workspace} {command : Command} {state : State} {completion : Completion}
    (h : ((git w command).run state).outcome = .answered completion) :
    ∃ spawn, ((git w command).run state).spawns = [spawn] ∧ command.Names spawn.args ∧
      spawn.reply.completion? = some completion := by
  rw [git_outcome] at h
  rw [git_spawns]
  cases w.give_run command state.script with
  | never _ _ outcome =>
    rw [h] at outcome
    cases outcome
  | once spawn spawns args _ outcome => exact ⟨spawn, spawns, args, (outcome completion).1 h⟩

/-- Giving a command that has to succeed leaves the cache as it is. -/
lemma gitChecked_cache (w : Workspace) (command : Command) (state : State) :
    ((gitChecked w command).run state).state.cache = state.cache :=
  rfl

/-- How a command that has to succeed ends: it is never started, or it is started and does not
succeed, or it succeeds and is answered with its output. -/
inductive Carries (command : Command) (r : Run State String) : Prop where
  | never (spawns : r.spawns = []) (outcome : r.outcome.isAnswered = false)
  | refused (spawn : Spawn) (spawns : r.spawns = [spawn]) (args : command.Names spawn.args)
      (reply : spawn.reply.isSuccess = false) (outcome : r.outcome.isAnswered = false)
  | done (spawn : Spawn) (completion : Completion) (spawns : r.spawns = [spawn])
      (args : command.Names spawn.args) (reply : spawn.reply.success? = some completion)
      (outcome : r.outcome = .answered completion.out)

/-- A command that has to succeed is answered exactly when it is started and ends with the exit code
zero.

**Proof sketch.** By `gitChecked_eq` the command is given and then its exit code is looked at. If
the command is not answered, neither its exit code was zero (`Reply.success?_eq_some_iff`) nor is
anything else done. -/
lemma gitChecked_run (w : Workspace) (command : Command) (state : State) :
    Carries command ((gitChecked w command).run state) := by
  rw [gitChecked_eq]
  have hgit := git_spawns w command state
  rw [Run.spawns] at hgit
  cases hanswered : ((git w command).run state).outcome.isAnswered with
  | false =>
    obtain ⟨houtcome, -, hevents⟩ := Action.run_bind_of_not_answered hanswered fun completion =>
      Action.orFail (accept w command completion)
    cases w.give_run command state.script with
    | never spawns _ _ =>
      refine .never ?_ houtcome
      rw [Run.spawns, hevents, hgit, spawns]
    | once spawn spawns args _ outcome =>
      refine .refused spawn ?_ args ?_ houtcome
      · rw [Run.spawns, hevents, hgit, spawns]
      · cases hreply : spawn.reply.success? with
        | none => rw [Reply.isSuccess, hreply, Option.isSome_none]
        | some completion =>
          have hcompletion := (Reply.success?_eq_some_iff.1 hreply).1
          rw [git_outcome, (outcome completion).2 hcompletion] at hanswered
          cases hanswered
  | true =>
    obtain ⟨completion, hcompletion⟩ := Outcome.isAnswered_iff.1 hanswered
    rw [Action.run_bind_of_answered hcompletion]
    cases w.give_run command state.script with
    | never _ _ outcome =>
      rw [git_outcome, outcome] at hanswered
      cases hanswered
    | once spawn spawns args _ outcome =>
      have hreply : spawn.reply.completion? = some completion :=
        (outcome completion).1 (git_outcome w command state ▸ hcompletion)
      have hspawns : spawnsOf ((git w command).run state).events = [spawn] :=
        hgit.trans spawns
      by_cases hok : completion.ok = true
      · refine .done spawn completion ?_ args (Reply.success?_eq_some_iff.2 ⟨hreply, hok⟩) ?_
        · simp [Run.spawns, hspawns, accept, hok, Action.orFail]
        · simp [accept, hok, Action.orFail]
      · refine .refused spawn ?_ args ?_ ?_
        · simp [Run.spawns, hspawns, accept, hok, Action.orFail]
        · simp [Reply.isSuccess, Reply.success?_eq, hreply, Option.filter_some, hok]
        · simp [accept, hok, Action.orFail, Outcome.isAnswered]

/-- When the arguments of a command give every spawn a property, giving it keeps that property. -/
lemma git_keeps_every (w : Workspace) {command : Command} {p : Spawn → Prop}
    (h : ∀ spawn : Spawn, command.Names spawn.args → p spawn) :
    Action.Keeps (.every p) (git w command) := by
  intro state
  change ∀ spawn ∈ ((w.give command).run state.script).spawns, p spawn
  cases w.give_run command state.script with
  | never spawns _ _ => simp [spawns]
  | once spawn spawns args _ _ => simpa [spawns] using h spawn args

end Session

end WorkTree
