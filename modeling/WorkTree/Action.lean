import WorkTree.Failure.Cause
import WorkTree.Fault
import WorkTree.Log.Record
import WorkTree.Runner.Script

set_option relaxedAutoImplicit false
set_option autoImplicit false

/-!
# Actions

An action runs from a state to a state, comes to an outcome, and leaves a trace: the programs that
it started, with the replies, and what it wrote to the log, in order. It answers, or it fails with
a cause, or a fault ends it. What comes after an action runs only if the action answered; state and
trace are kept in every case.

## Main definitions

* `WorkTree.Invocation`, `WorkTree.Event` — a start of a program, and the entries of a trace.
* `WorkTree.Outcome`, `WorkTree.Run` — what an action comes to.
* `WorkTree.Action` — actions; they form a monad.
* `WorkTree.Action.fail`, `WorkTree.Action.abort`, `WorkTree.Action.orAbort`,
  `WorkTree.Action.attempt` — failing, ending by a fault, and turning a failure into an answer.
* `WorkTree.Action.ensure`, `WorkTree.Action.onlyIf` — failing and acting under a condition.
* `WorkTree.Action.log` — writing to the log.

## Main results

* `WorkTree.Action.bind_run` — how two actions run one after the other.
* The instance of `LawfulMonad` — joining actions is associative, with answers at once neutral.
-/

namespace WorkTree

/-- A start of a program: its name and arguments, the directory it runs in unless that is left open,
the time limit in seconds and its environment variables. -/
structure Invocation where
  program : String
  args : List String
  directory : Option Path
  timeLimit : Double
  environment : List (String × String)
  deriving DecidableEq, Repr

/-- An entry of a trace. -/
inductive Event where
  | started (invocation : Invocation) (reply : Reply)
  | logged (record : Log.Record)
  deriving DecidableEq, Repr

/-- What an action comes to. -/
inductive Outcome (α : Type) where
  | answered (value : α)
  | failed (cause : Cause)
  | aborted (fault : Fault)
  deriving DecidableEq, Repr

/-- A run of an action: what it comes to, the state it leaves, and its trace. -/
structure Run (σ α : Type) where
  outcome : Outcome α
  state : σ
  events : List Event := []

/-- A computation on a state that leaves a trace. -/
def Action (σ α : Type) : Type :=
  σ → Run σ α

namespace Action

variable {σ α β : Type}

/-- The run of an action from a state. -/
def run (action : Action σ α) (state : σ) : Run σ α :=
  action state

/-- Runs an action and then, if it answered, another one that depends on the answer. -/
def andThen (first : Action σ α) (next : α → Action σ β) : Action σ β := fun state =>
  let r := first state
  match r.outcome with
  | .answered value =>
    let r' := next value r.state
    { r' with events := r.events ++ r'.events }
  | .failed cause => { outcome := .failed cause, state := r.state, events := r.events }
  | .aborted fault => { outcome := .aborted fault, state := r.state, events := r.events }

instance : Monad (Action σ) where
  pure value := fun state => { outcome := .answered value, state }
  bind := andThen

/-- Fails with a cause. -/
def fail (cause : Cause) : Action σ α := fun state =>
  { outcome := .failed cause, state }

/-- Ends by a fault. -/
def abort (fault : Fault) : Action σ α := fun state =>
  { outcome := .aborted fault, state }

/-- Answers with a value, or ends by the fault that stands in its place. -/
def orAbort : Except Fault α → Action σ α
  | .ok value => pure value
  | .error fault => abort fault

/-- Fails with a cause unless a condition holds. -/
def ensure (condition : Bool) (cause : Cause) : Action σ Unit :=
  if condition then pure () else fail cause

/-- Runs an action only if a condition holds. -/
def onlyIf (condition : Bool) (action : Action σ Unit) : Action σ Unit :=
  if condition then action else pure ()

/-- Answers with the cause where the action fails. -/
def attempt (action : Action σ α) : Action σ (Except Cause α) := fun state =>
  let r := action state
  let outcome :=
    match r.outcome with
    | .answered value => .answered (.ok value)
    | .failed cause => .answered (.error cause)
    | .aborted fault => .aborted fault
  { outcome, state := r.state, events := r.events }

/-- The state. -/
def get : Action σ σ := fun state =>
  { outcome := .answered state, state }

/-- Replaces the state. -/
def modify (f : σ → σ) : Action σ Unit := fun state =>
  { outcome := .answered (), state := f state }

/-- Writes to the log. -/
def log (severity : Log.Severity) (channel : Log.Channel) (message : String) : Action σ Unit :=
  fun state => { outcome := .answered (), state, events := [.logged ⟨severity, channel, message⟩] }

/-- Two actions run one after the other, unless the first one does not answer. -/
theorem bind_run (first : Action σ α) (next : α → Action σ β) (state : σ) :
    (first >>= next).run state =
      match (first.run state).outcome with
      | .answered value =>
        let r := (next value).run (first.run state).state
        { r with events := (first.run state).events ++ r.events }
      | .failed cause =>
        { outcome := .failed cause, state := (first.run state).state,
          events := (first.run state).events }
      | .aborted fault =>
        { outcome := .aborted fault, state := (first.run state).state,
          events := (first.run state).events } :=
  rfl

/-- Joining actions loses nothing and does nothing twice: an answer at once is neutral, and how
joins are bracketed does not matter. -/
instance : LawfulMonad (Action σ) := LawfulMonad.mk' _
  (fun action => by
    funext state
    change (andThen action fun value => pure value) state = action state
    rcases h : action state with ⟨outcome, state', events⟩
    cases outcome <;> simp [andThen, h, pure])
  (fun _ _ => rfl)
  (fun first second third => by
    funext state
    change andThen (andThen first second) third state =
      andThen first (fun value => andThen (second value) third) state
    rcases h : first state with ⟨outcome, state', events⟩
    cases outcome with
    | answered value =>
      rcases h' : second value state' with ⟨outcome', state'', events'⟩
      cases outcome' <;> simp [andThen, h, h', List.append_assoc]
    | failed cause => simp [andThen, h]
    | aborted fault => simp [andThen, h])

end Action

end WorkTree
