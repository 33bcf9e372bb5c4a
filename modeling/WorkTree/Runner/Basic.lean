import WorkTree.Action
import WorkTree.Host.Basic
import WorkTree.Value.Texts
import WorkTree.Value.Whole

set_option relaxedAutoImplicit false
set_option autoImplicit false

/-!
# Running commands

A runner starts git in one directory and under one time limit. Every command is started anew and
can ask nothing back. A command that runs to its end is an answer whatever its exit code; it fails
when the directory is missing, the program cannot be started or the time is up.

## Main definitions

* `WorkTree.Runner` — directory, time limit and program.
* `WorkTree.Runner.run` — runs a command.
* `WorkTree.Runner.runChecked` — runs a command that has to succeed, for its output.
* `WorkTree.Runner.withTexts` — runs something with arguments that have yet to be shown to be texts.

## Main results

* `WorkTree.Runner.withTexts_map` — arguments that are texts are taken as they stand.
-/

namespace WorkTree

/-- A directory to run commands in, a time limit, and the program. -/
structure Runner where
  directory : Path
  limit : TimeLimit
  program : String := "git"
  deriving DecidableEq, Repr

namespace Runner

/-- The runner for a directory and a time limit, each given by a value that stands for one. -/
def create (directory limit : Value) (program : String := "git") : Except Fault Runner := do
  let directory ← directory.toPath
  let limit ← TimeLimit.ofValue limit
  return { directory, limit, program }

/-- The variables that keep git from waiting for an answer at a prompt or in an editor. -/
def promptVariables : List (String × String) :=
  [("GIT_TERMINAL_PROMPT", "0"), ("GIT_EDITOR", "true")]

/-- The environment of the commands. -/
def environmentFor (host : Host) : List (String × String) :=
  (promptVariables.foldl Environment.put host.environment).entries

/-- Whether the program and its arguments can be handed to the operating system. -/
def isPassable (argv : List String) : Bool :=
  argv.all fun arg => arg.toList.all (·.toNat != 0)

/-- Writes to the log of the runner. -/
def debug (message : String) : Action Script Unit :=
  Action.log .debug .runner message

/-- Starts the program and takes the reply, with both in the trace. -/
def start (invocation : Invocation) : Action Script Reply := fun script =>
  let (reply, rest) := script.answer invocation.args
  { outcome := .answered reply, state := rest, events := [.started invocation reply] }

/-- How an error of the operating system is written. -/
def refusalText (number : Option Value) (message : Value) : String :=
  match number with
  | none => message.asText
  | some n => "[Errno " ++ n.asText ++ "] " ++ message.asText

/-- The error number of a missing file. -/
def missingFile : Value :=
  .int 2

/-- What a reply comes to: the completed command, or why there is none. -/
def conclude (runner : Runner) (args : List String) : Reply → Action Script Completion
  | .completed code out err => do
    let completion : Completion := ⟨code, out.read, err.read⟩
    Action.onlyIf (!completion.ok) (do
      let code ← Action.orAbort code.whole
      debug ("git " ++ commandLine args ++ " exited " ++ toString code))
    pure completion
  | .timedOut => do
    let milliseconds ← Action.orAbort runner.limit.value.whole
    debug (Cause.timeoutMessage args (toString milliseconds))
    Action.fail (.timedOut runner.directory args runner.limit)
  | .notFound => Action.fail (.programMissing runner.directory args)
  | .refused number message =>
    if number = some missingFile then Action.fail (.programMissing runner.directory args)
    else Action.fail (.notStarted runner.directory args (refusalText number message))
  | .interrupted fault => Action.abort fault

/-- Starts git with some arguments, in the directory of the runner when `isLocal` holds, and waits
for its end. -/
def launch (runner : Runner) (host : Host) (args : List String) (isLocal : Bool) :
    Action Script Completion := do
  debug ("git " ++ commandLine args ++ " (cwd=" ++ runner.directory.text ++ ")")
  match runner.limit.seconds? with
  | none => Action.abort .timeLimitTooLarge
  | some timeLimit =>
    if isPassable (runner.program :: args) then
      let reply ← start
        { program := runner.program
          args
          directory := if isLocal then some runner.directory else none
          timeLimit
          environment := environmentFor host }
      runner.conclude args reply
    else Action.abort .embeddedNul

/-- A command that is to run in the directory needs it to exist. -/
def requireDirectory (runner : Runner) (host : Host) (args : List Value) (isLocal : Bool) :
    Action Script Unit :=
  match isLocal, host.look runner.directory with
  | true, .nameTooLong => Action.abort (.nameTooLong runner.directory)
  | true, .noDirectory | true, .device => Action.fail (.directoryMissing runner.directory args)
  | _, _ => pure ()

/-- Runs git with some arguments and answers with what it leaves, whatever the exit code. -/
def run (runner : Runner) (host : Host) (args : List String) (isLocal : Bool := true) :
    Action Script Completion := do
  runner.requireDirectory host (args.map .text) isLocal
  runner.launch host args isLocal

/-- Runs git with some arguments and answers with what it printed; an exit code other than zero is a
failure. -/
def runChecked (runner : Runner) (host : Host) (args : List String) (isLocal : Bool := true) :
    Action Script String := do
  let completion ← runner.run host args isLocal
  if completion.ok then pure completion.out
  else Action.fail (.exited runner.directory args completion)

/-- Goes on with the texts that the arguments of a command are. Arguments that are not all texts are
refused when the command would start, so a directory that is missing comes first. -/
def withTexts {α : Type} (runner : Runner) (host : Host) (args : List Value) (isLocal : Bool)
    (next : List String → Action Script α) : Action Script α :=
  match Value.texts args with
  | .ok args => next args
  | .error fault => do
    runner.requireDirectory host args isLocal
    Action.abort fault

/-- Arguments that are texts are taken as they stand. -/
@[simp]
theorem withTexts_map {α : Type} (runner : Runner) (host : Host) (args : List String)
    (isLocal : Bool) (next : List String → Action Script α) :
    runner.withTexts host (args.map .text) isLocal next = next args := by
  simp [withTexts]

end Runner

end WorkTree
