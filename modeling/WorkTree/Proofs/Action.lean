import Mathlib.Tactic.Lemma
import WorkTree.Action

set_option relaxedAutoImplicit false
set_option autoImplicit false

/-!
# What actions keep

A trace relation says how a state, a trace and a later state hang together, in a way that survives
putting one trace behind another. An action keeps the relation when every run of it stands in it,
whatever it comes to. Joined actions keep what each of them keeps, so a property of a session is
shown for the few steps that touch git or the cache and then holds of every operation made of them.

## Main definitions

* `WorkTree.Spawn`, `WorkTree.spawnsOf` — the starts of programs in a trace, with their replies.
* `WorkTree.TraceRelation` — relations of traces; `TraceRelation.ofSpawns` and
  `TraceRelation.every` make one from a relation of spawns and from a property of each of them.
* `WorkTree.Action.Keeps` — an action keeps a trace relation.
* `WorkTree.Action.FailsWith` — every cause that an action fails with has a property.

## Main results

* `WorkTree.Action.Keeps.bind`, `WorkTree.Action.Keeps.attempt` — joined and attempted actions keep
  what their parts keep.
-/

namespace WorkTree

/-! ## Spawns -/

/-- A start of a program, with the reply to it. -/
structure Spawn where
  invocation : Invocation
  reply : Reply
  deriving DecidableEq, Repr

/-- The arguments of a spawn. -/
def Spawn.args (spawn : Spawn) : List String :=
  spawn.invocation.args

/-- The spawn that an entry of a trace is, if it is one. -/
def Event.spawn? : Event → Option Spawn
  | .started invocation reply => some ⟨invocation, reply⟩
  | .logged _ => none

/-- The spawns of a trace, in order. -/
def spawnsOf (events : List Event) : List Spawn :=
  events.filterMap Event.spawn?

/-- The spawns of a run. -/
def Run.spawns {σ α : Type} (r : Run σ α) : List Spawn :=
  spawnsOf r.events

/-- A trace without entries has no spawns. -/
@[simp]
lemma spawnsOf_nil : spawnsOf [] = [] :=
  rfl

/-- The spawns of a trace behind another come behind the spawns of that one. -/
@[simp]
lemma spawnsOf_append (events events' : List Event) :
    spawnsOf (events ++ events') = spawnsOf events ++ spawnsOf events' :=
  List.filterMap_append

/-- An entry of the log is no spawn. -/
@[simp]
lemma spawnsOf_logged (record : Log.Record) (events : List Event) :
    spawnsOf (.logged record :: events) = spawnsOf events :=
  rfl

/-- A start is a spawn. -/
@[simp]
lemma spawnsOf_started (invocation : Invocation) (reply : Reply) (events : List Event) :
    spawnsOf (.started invocation reply :: events) = ⟨invocation, reply⟩ :: spawnsOf events :=
  rfl

/-- What stands in a list that is made of two parts stands in the first of them or in the second. -/
lemma split_of_append_eq {α : Type} {first last before after : List α} {a : α}
    (h : first ++ last = before ++ a :: after) :
    (∃ behind, first = before ++ a :: behind ∧ after = behind ++ last) ∨
      ∃ between, before = first ++ between ∧ last = between ++ a :: after := by
  rcases List.append_eq_append_iff.1 h with ⟨between, hbefore, hlast⟩ | ⟨behind, hfirst, hafter⟩
  · exact .inr ⟨between, hbefore, hlast⟩
  · cases behind with
    | nil => exact .inr ⟨[], by simpa using hfirst.symm, by simpa using hafter.symm⟩
    | cons b behind =>
      obtain ⟨rfl, rfl⟩ := List.cons.inj hafter
      exact .inl ⟨behind, hfirst, rfl⟩

/-! ## Outcomes -/

/-- Whether an action answered. -/
def Outcome.isAnswered {α : Type} : Outcome α → Bool
  | .answered _ => true
  | .failed _ | .aborted _ => false

/-- The answer of an action, if there is one. -/
def Outcome.answer? {α : Type} : Outcome α → Option α
  | .answered value => some value
  | .failed _ | .aborted _ => none

/-- The outcome of an attempt: a failure is an answer. -/
@[simp]
def Outcome.attempted {α : Type} : Outcome α → Outcome (Except Cause α)
  | .answered value => .answered (.ok value)
  | .failed cause => .answered (.error cause)
  | .aborted fault => .aborted fault

/-- The outcome with the answer written in another way. -/
def Outcome.map {α β : Type} (f : α → β) : Outcome α → Outcome β
  | .answered value => .answered (f value)
  | .failed cause => .failed cause
  | .aborted fault => .aborted fault

/-- An action answered exactly when there is an answer. -/
lemma Outcome.isAnswered_iff {α : Type} {outcome : Outcome α} :
    outcome.isAnswered = true ↔ ∃ value, outcome = .answered value := by
  cases outcome <;> simp [isAnswered]

/-- An outcome that is no answer is a failure or a fault. -/
lemma Outcome.failed_or_aborted {α : Type} {outcome : Outcome α}
    (h : outcome.isAnswered = false) :
    (∃ cause, outcome = .failed cause) ∨ ∃ fault, outcome = .aborted fault := by
  cases outcome with
  | answered value => cases h
  | failed cause => exact .inl ⟨cause, rfl⟩
  | aborted fault => exact .inr ⟨fault, rfl⟩

/-- The answer of an action is the one that it answered. -/
lemma Outcome.answer?_eq_some_iff {α : Type} {outcome : Outcome α} {value : α} :
    outcome.answer? = some value ↔ outcome = .answered value := by
  cases outcome <;> simp [answer?]

/-! ## Trace relations -/

/-- A relation of a state, a trace and the state after it that holds of the empty trace and of one
trace behind another. -/
structure TraceRelation (σ : Type) where
  holds : σ → List Event → σ → Prop
  nil : ∀ state, holds state [] state
  append : ∀ {state state' state'' : σ} {events events' : List Event},
    holds state events state' → holds state' events' state'' →
      holds state (events ++ events') state''

namespace TraceRelation

variable {σ : Type}

/-- The trace relation that looks only at spawns. -/
def ofSpawns (rel : σ → List Spawn → σ → Prop) (nil : ∀ state, rel state [] state)
    (append : ∀ {state state' state'' : σ} {spawns spawns' : List Spawn},
      rel state spawns state' → rel state' spawns' state'' →
        rel state (spawns ++ spawns') state'') : TraceRelation σ where
  holds state events state' := rel state (spawnsOf events) state'
  nil := nil
  append h h' := by
    rw [spawnsOf_append]
    exact append h h'

/-- The trace relation that holds when every spawn has a property. -/
def every (p : Spawn → Prop) : TraceRelation σ :=
  ofSpawns (fun _ spawns _ => ∀ spawn ∈ spawns, p spawn) (by simp) (by
    intro _ _ _ spawns spawns' h h' spawn hmem
    rcases List.mem_append.1 hmem with hmem | hmem
    · exact h spawn hmem
    · exact h' spawn hmem)

/-- A trace without spawns has every property of spawns. -/
lemma every_of_no_spawns {p : Spawn → Prop} {state state' : σ} {events : List Event}
    (h : spawnsOf events = []) : (every p).holds state events state' := by
  intro spawn hmem
  rw [h] at hmem
  cases hmem

/-- The trace relation of what holds of the state and is never lost. -/
def invariant (p : σ → Prop) : TraceRelation σ where
  holds state _ state' := p state → p state'
  nil _ h := h
  append h h' hp := h' (h hp)

end TraceRelation

namespace Action

variable {σ α β : Type} {R : TraceRelation σ}

/-- An answer, or the failure that stands in its place. -/
def orFail : Except Cause α → Action σ α
  | .ok value => pure value
  | .error cause => fail cause

/-- An action keeps a trace relation when each of its runs stands in it. -/
def Keeps (R : TraceRelation σ) (action : Action σ α) : Prop :=
  ∀ state, R.holds state (action.run state).events (action.run state).state

/-! ## Runs -/

/-- Answering at once leaves the state as it is. -/
@[simp]
lemma run_pure (value : α) (state : σ) :
    (pure value : Action σ α).run state = { outcome := .answered value, state } :=
  rfl

/-- Failing leaves the state as it is. -/
@[simp]
lemma run_fail (cause : Cause) (state : σ) :
    (fail cause : Action σ α).run state = { outcome := .failed cause, state } :=
  rfl

/-- A fault leaves the state as it is. -/
@[simp]
lemma run_abort (fault : Fault) (state : σ) :
    (abort fault : Action σ α).run state = { outcome := .aborted fault, state } :=
  rfl

/-- Nothing comes behind a fault. -/
@[simp]
lemma abort_bind (fault : Fault) (next : α → Action σ β) : abort fault >>= next = abort fault :=
  rfl

/-- A run of an action behind one that answers. -/
lemma run_bind_of_answered {first : Action σ α} {value : α} {state : σ}
    (h : (first.run state).outcome = .answered value) (next : α → Action σ β) :
    (first >>= next).run state =
      { (next value).run (first.run state).state with
        events := (first.run state).events ++
          ((next value).run (first.run state).state).events } := by
  rw [bind_run, h]

/-- The spawns of an action behind one that answers come behind the spawns of that one. -/
lemma spawns_bind_of_answered {first : Action σ α} {value : α} {state : σ}
    (h : (first.run state).outcome = .answered value) (next : α → Action σ β) :
    ((first >>= next).run state).spawns =
      (first.run state).spawns ++ ((next value).run (first.run state).state).spawns := by
  rw [run_bind_of_answered h, Run.spawns, spawnsOf_append]
  rfl

/-- An action behind one that answers leaves its own state. -/
lemma state_bind_of_answered {first : Action σ α} {value : α} {state : σ}
    (h : (first.run state).outcome = .answered value) (next : α → Action σ β) :
    ((first >>= next).run state).state = ((next value).run (first.run state).state).state := by
  rw [run_bind_of_answered h]

/-- An action behind one that answers and leaves no trace runs as if it came first. -/
lemma run_bind_of_still {first : Action σ α} {value : α} {state : σ}
    (h : first.run state = { outcome := .answered value, state }) (next : α → Action σ β) :
    (first >>= next).run state = (next value).run state := by
  rw [run_bind_of_answered (congrArg Run.outcome h), h]
  rfl

/-- What comes behind an action that does not answer is not run. -/
lemma run_bind_of_not_answered {first : Action σ α} {state : σ}
    (h : (first.run state).outcome.isAnswered = false) (next : α → Action σ β) :
    ((first >>= next).run state).outcome.isAnswered = false ∧
      ((first >>= next).run state).state = (first.run state).state ∧
      ((first >>= next).run state).events = (first.run state).events := by
  rw [bind_run]
  cases ho : (first.run state).outcome with
  | answered value => simp [ho, Outcome.isAnswered] at h
  | failed cause => simp [Outcome.isAnswered]
  | aborted fault => simp [Outcome.isAnswered]

/-- A spawn of joined actions is one of the first, or one of the second behind its answer. -/
lemma mem_spawns_bind_iff {first : Action σ α} {next : α → Action σ β} {state : σ} {spawn : Spawn} :
    spawn ∈ ((first >>= next).run state).spawns ↔
      spawn ∈ (first.run state).spawns ∨ ∃ value, (first.run state).outcome = .answered value ∧
        spawn ∈ ((next value).run (first.run state).state).spawns := by
  rw [bind_run]
  cases houtcome : (first.run state).outcome <;> simp [Run.spawns]

/-- A spawn of joined actions that is none of the first comes behind all of these, and then the
first action answers. -/
lemma behind_of_not_mem {first : Action σ α} {next : α → Action σ β} {state : σ}
    {before after : List Spawn} {spawn : Spawn}
    (h : ((first >>= next).run state).spawns = before ++ spawn :: after)
    (hnot : spawn ∉ (first.run state).spawns) :
    ∃ value between, (first.run state).outcome = .answered value ∧
      before = (first.run state).spawns ++ between ∧
        ((next value).run (first.run state).state).spawns = between ++ spawn :: after := by
  have hmem : spawn ∈ ((first >>= next).run state).spawns := by simp [h]
  obtain ⟨value, hvalue, -⟩ := (mem_spawns_bind_iff.1 hmem).resolve_left hnot
  rw [spawns_bind_of_answered hvalue] at h
  rcases split_of_append_eq h with ⟨behind, hfirst, -⟩ | ⟨between, hbefore, hnext⟩
  · exact absurd (by simp [hfirst]) hnot
  · exact ⟨value, between, hvalue, hbefore, hnext⟩

/-- A joined action answers exactly when both its parts do. -/
lemma answered_bind_iff {first : Action σ α} {next : α → Action σ β} {state : σ} {result : β} :
    ((first >>= next).run state).outcome = .answered result ↔
      ∃ value, (first.run state).outcome = .answered value ∧
        ((next value).run (first.run state).state).outcome = .answered result := by
  rw [bind_run]
  cases (first.run state).outcome <;> simp

/-- What may end by a fault answers exactly when there is an answer. -/
lemma answered_orAbort_iff {value : Except Fault α} {state : σ} {result : α} :
    ((orAbort value).run state).outcome = .answered result ↔ value = .ok result := by
  cases value <;> simp [orAbort]

/-- Writing the answer in another way changes nothing else. -/
lemma run_map (f : α → β) (action : Action σ α) (state : σ) :
    (f <$> action).run state =
      { outcome := (action.run state).outcome.map f, state := (action.run state).state,
        events := (action.run state).events } := by
  rw [← bind_pure_comp, bind_run]
  cases (action.run state).outcome <;> simp [Outcome.map]

/-! ## Joining -/

namespace Keeps

/-- An answer at once keeps every trace relation. -/
lemma pure (value : α) : Keeps R (Pure.pure value : Action σ α) :=
  fun state => R.nil state

/-- A failure keeps every trace relation. -/
lemma fail (cause : Cause) : Keeps R (Action.fail cause : Action σ α) :=
  fun state => R.nil state

/-- A fault keeps every trace relation. -/
lemma abort (fault : Fault) : Keeps R (Action.abort fault : Action σ α) :=
  fun state => R.nil state

/-- Looking at the state keeps every trace relation. -/
lemma get : Keeps R (Action.get : Action σ σ) :=
  fun state => R.nil state

/-- An answer or a fault in its place keeps every trace relation. -/
lemma orAbort (value : Except Fault α) : Keeps R (Action.orAbort value) := by
  cases value with
  | ok value => exact pure value
  | error fault => exact abort fault

/-- An answer or a failure in its place keeps every trace relation. -/
lemma orFail (value : Except Cause α) : Keeps R (Action.orFail value) := by
  cases value with
  | ok value => exact pure value
  | error cause => exact fail cause

/-- Failing unless a condition holds keeps every trace relation. -/
lemma ensure (condition : Bool) (cause : Cause) : Keeps R (Action.ensure condition cause) := by
  cases condition with
  | false => exact fail cause
  | true => exact pure ()

/-- What comes behind an action has to keep a trace relation only for what that action answers. -/
lemma bind_of_answered {first : Action σ α} {next : α → Action σ β} (hfirst : Keeps R first)
    (hnext : ∀ state value, (first.run state).outcome = .answered value →
      R.holds (first.run state).state ((next value).run (first.run state).state).events
        ((next value).run (first.run state).state).state) :
    Keeps R (first >>= next) := by
  intro state
  cases h : (first.run state).outcome.isAnswered with
  | false =>
    obtain ⟨-, hstate, hevents⟩ := run_bind_of_not_answered h next
    rw [hstate, hevents]
    exact hfirst state
  | true =>
    obtain ⟨value, hvalue⟩ := Outcome.isAnswered_iff.1 h
    rw [run_bind_of_answered hvalue next]
    exact R.append (hfirst state) (hnext state value hvalue)

/-- Joined actions keep what both keep. -/
lemma bind {first : Action σ α} {next : α → Action σ β} (hfirst : Keeps R first)
    (hnext : ∀ value, Keeps R (next value)) : Keeps R (first >>= next) :=
  bind_of_answered hfirst fun _ value _ => hnext value _

/-- An action with its answer written in another way keeps the same. -/
lemma map {action : Action σ α} (f : α → β) (h : Keeps R action) : Keeps R (f <$> action) := by
  rw [← bind_pure_comp]
  exact h.bind fun value => pure (f value)

/-- An attempted action keeps the same. -/
lemma attempt {action : Action σ α} (h : Keeps R action) : Keeps R action.attempt :=
  h

end Keeps

/-- Whether an attempted action answers, and with what, depends on the outcome alone. -/
lemma run_attempt (action : Action σ α) (state : σ) :
    (attempt action).run state =
      { outcome := (action.run state).outcome.attempted
        state := (action.run state).state
        events := (action.run state).events } :=
  rfl

/-- An attempted action is ended by the fault that ends the action, or it answers, and its answer is
no failure exactly when the action answers. -/
lemma attempt_cases (action : Action σ α) (state : σ) :
    (∃ fault, (action.run state).outcome = .aborted fault ∧
      ((attempt action).run state).outcome = .aborted fault) ∨
    ∃ answer, ((attempt action).run state).outcome = .answered answer ∧
      answer.toOption = (action.run state).outcome.answer? := by
  rw [run_attempt]
  cases (action.run state).outcome with
  | answered value => exact .inr ⟨.ok value, rfl, rfl⟩
  | failed cause => exact .inr ⟨.error cause, rfl, rfl⟩
  | aborted fault => exact .inl ⟨fault, rfl, rfl⟩

/-- Joined actions are the first one attempted, and then the second one or the failure. -/
lemma bind_eq_attempt_bind (first : Action σ α) (next : α → Action σ β) :
    first >>= next = attempt first >>= fun
      | .ok value => next value
      | .error cause => fail cause := by
  funext state
  change (first >>= next).run state = Action.run (attempt first >>= _) state
  rw [bind_run, bind_run, run_attempt]
  cases (first.run state).outcome <;> simp

/-- Attempting joined actions is attempting the first one, and then the second one if that
answers. -/
lemma attempt_bind (first : Action σ α) (next : α → Action σ β) :
    attempt (first >>= next) = attempt first >>= fun
      | .ok value => attempt (next value)
      | .error cause => pure (.error cause) := by
  funext state
  change (attempt (first >>= next)).run state = Action.run (attempt first >>= _) state
  rw [run_attempt, bind_run, bind_run, run_attempt]
  cases (first.run state).outcome <;> simp [run_attempt]

/-- Attempting an action whose answer may be turned down is attempting the action, and turning its
answer down. -/
lemma attempt_bind_orFail (first : Action σ α) (accept : α → Except Cause β) :
    attempt (first >>= fun value => orFail (accept value)) =
      attempt first >>= fun answer => pure (answer >>= accept) := by
  rw [attempt_bind]
  congr 1
  funext answer
  cases answer with
  | error cause => rfl
  | ok value =>
    change attempt (orFail (accept value)) = pure (accept value)
    cases accept value <;> rfl

/-! ## Failing -/

/-- Every cause that an action fails with has a property. -/
def FailsWith (p : Cause → Prop) (action : Action σ α) : Prop :=
  ∀ state cause, (action.run state).outcome = .failed cause → p cause

namespace FailsWith

variable {p : Cause → Prop}

/-- An answer at once is no failure. -/
lemma pure (value : α) : FailsWith p (Pure.pure value : Action σ α) :=
  fun _ _ h => nomatch h

/-- A failure fails with its cause. -/
lemma fail {cause : Cause} (h : p cause) : FailsWith p (Action.fail cause : Action σ α) := by
  intro _ cause' hfailed
  obtain rfl := Outcome.failed.inj hfailed
  exact h

/-- A fault is no failure. -/
lemma abort (fault : Fault) : FailsWith p (Action.abort fault : Action σ α) :=
  fun _ _ h => nomatch h

/-- Replacing the state does not fail. -/
lemma modify (f : σ → σ) : FailsWith p (Action.modify f) :=
  fun _ _ h => nomatch h

/-- Writing to the log does not fail. -/
lemma log (severity : Log.Severity) (channel : Log.Channel) (message : String) :
    FailsWith p (Action.log severity channel message : Action σ Unit) :=
  fun _ _ h => nomatch h

/-- An answer or a fault in its place is no failure. -/
lemma orAbort (value : Except Fault α) : FailsWith p (Action.orAbort value : Action σ α) := by
  cases value with
  | ok value => exact pure value
  | error fault => exact abort fault

/-- What fails unless a condition holds fails with its cause. -/
lemma ensure (condition : Bool) {cause : Cause} (h : p cause) :
    FailsWith p (Action.ensure condition cause : Action σ Unit) := by
  cases condition with
  | false => exact fail h
  | true => exact pure ()

/-- What is done only if a condition holds fails with the same. -/
lemma onlyIf (condition : Bool) {action : Action σ Unit} (h : FailsWith p action) :
    FailsWith p (Action.onlyIf condition action) := by
  cases condition with
  | false => exact pure ()
  | true => exact h

/-- Joined actions fail with what both fail with. -/
lemma bind {first : Action σ α} {next : α → Action σ β} (hfirst : FailsWith p first)
    (hnext : ∀ value, FailsWith p (next value)) : FailsWith p (first >>= next) := by
  intro state cause h
  rw [bind_run] at h
  cases houtcome : (first.run state).outcome with
  | answered value =>
    rw [houtcome] at h
    exact hnext value _ cause h
  | failed cause' =>
    rw [houtcome] at h
    obtain rfl := Outcome.failed.inj h
    exact hfirst state _ houtcome
  | aborted fault =>
    rw [houtcome] at h
    cases h

/-- An action with its answer written in another way fails with the same. -/
lemma map {action : Action σ α} (f : α → β) (h : FailsWith p action) :
    FailsWith p (f <$> action) := by
  rw [← bind_pure_comp]
  exact h.bind fun value => pure (f value)

/-- What an action fails with has every weaker property, too. -/
lemma mono {p' : Cause → Prop} {action : Action σ α} (h : FailsWith p action)
    (hp : ∀ cause, p cause → p' cause) : FailsWith p' action :=
  fun state cause hfailed => hp cause (h state cause hfailed)

/-- An attempted action does not fail. -/
lemma attempt (action : Action σ α) : FailsWith p (Action.attempt action) := by
  intro state cause h
  rw [run_attempt] at h
  cases houtcome : (action.run state).outcome <;> simp [houtcome] at h

end FailsWith

end Action

end WorkTree
