import Mathlib.Data.List.DropRight
import WorkTree.Proofs.Session.Calls

set_option relaxedAutoImplicit false
set_option autoImplicit false

/-!
# Histories

A session that makes one call after another has a history. For each slot, only what happened since
the last call that unset it matters: its content is what there is to see among the spawns since
then.

## Main definitions

* `WorkTree.Step`, `WorkTree.Session.history` — calls with their runs.
* `WorkTree.Session.stateAfter` — the state that calls leave.
* `WorkTree.Workspace.plain`, `WorkTree.Script.succeeding` — a workspace and scripts to look at.
* `WorkTree.Step.forgets`, `WorkTree.recent` — the steps that unset a slot, and the steps since the
  last one of these.

## Main results

* `WorkTree.Session.history_follows` — every slot follows its recent spawns.
-/

namespace WorkTree

/-! ## Steps -/

/-- A call that was made, with its run. -/
structure Step where
  call : Call
  run : Run Session.State Answer

/-- Whether a step unsets a slot: its call outdates the slot, and was answered. -/
def Step.forgets (step : Step) (slot : Slot) : Bool :=
  step.run.outcome.isAnswered && decide (slot ∈ step.call.outdates)

/-- The steps since the last one that unset a slot. -/
def recent (slot : Slot) (steps : List Step) : List Step :=
  steps.rtakeWhile fun step => !step.forgets slot

/-- The spawns of some steps, in order. -/
def spawnsIn (steps : List Step) : List Spawn :=
  steps.flatMap fun step => step.run.spawns

/-- The spawns of some steps and one more. -/
lemma spawnsIn_concat (steps : List Step) (step : Step) :
    spawnsIn (steps ++ [step]) = spawnsIn steps ++ step.run.spawns := by
  simp [spawnsIn]

/-- The spawns of some steps are those of their traces. -/
lemma spawnsOf_flatMap (steps : List Step) :
    spawnsOf (steps.flatMap fun step => step.run.events) = spawnsIn steps :=
  List.filterMap_flatMap

/-- The recent spawns are among the spawns. -/
lemma mem_spawnsIn_of_recent {slot : Slot} {steps : List Step} {spawn : Spawn}
    (h : spawn ∈ spawnsIn (recent slot steps)) : spawn ∈ spawnsIn steps := by
  obtain ⟨step, hstep, hspawn⟩ := List.mem_flatMap.1 h
  exact List.mem_flatMap.2 ⟨step, (List.rtakeWhile_suffix _ _).subset hstep, hspawn⟩

/-- A step that does not unset a slot comes to the recent ones; after one that does there are
none. -/
lemma recent_concat (slot : Slot) (steps : List Step) (step : Step) :
    recent slot (steps ++ [step]) =
      if step.forgets slot then [] else recent slot steps ++ [step] := by
  rw [recent, List.rtakeWhile_concat]
  cases step.forgets slot <;> rfl

/-! ## A workspace and scripts -/

/-- A workspace in one directory of a host that has nothing else. -/
def Workspace.plain : Workspace where
  host := { workingDirectory := ["work"], environment := .empty, accounts := [],
            directories := [[], ["work"]] }
  runner := { directory := ⟨.absolute, ["work"]⟩, limit := .whole 1000 (by decide) }

/-- A script in which some commands succeed, each with an output of its own, and any other command
ends with the exit code one. -/
def Script.succeeding (outputs : List (List String × String)) : Script where
  entries := outputs.map fun entry => (entry.1, [.completed (.int 0) (.text entry.2) .absent])
  otherwise _ := .completed (.int 1) .absent .absent

/-- A script of a repository in which one file has changed. -/
def Script.oneChange : Script :=
  .succeeding [(Slot.isRepository.words, "true\n"), (Slot.status.words, " M a.txt\n")]

namespace Session

/-! ## Histories -/

/-- The history of calls that are made one after the other. -/
def history (w : Workspace) : List Call → State → List Step
  | [], _ => []
  | call :: rest, state =>
    let r := (perform w call).run state
    ⟨call, r⟩ :: history w rest r.state

/-- The state that calls leave that are made one after the other. -/
def stateAfter (w : Workspace) : List Call → State → State
  | [], state => state
  | call :: rest, state => stateAfter w rest ((perform w call).run state).state

/-- The state after one more call. -/
lemma stateAfter_concat (w : Workspace) (calls : List Call) (call : Call) (state : State) :
    stateAfter w (calls ++ [call]) state =
      ((perform w call).run (stateAfter w calls state)).state := by
  induction calls generalizing state with
  | nil => rfl
  | cons first rest ih => exact ih _

/-- The history with one more call. -/
lemma history_concat (w : Workspace) (calls : List Call) (call : Call) (state : State) :
    history w (calls ++ [call]) state =
      history w calls state ++ [⟨call, (perform w call).run (stateAfter w calls state)⟩] := by
  induction calls generalizing state with
  | nil => rfl
  | cons first rest ih => exact congrArg _ (ih _)

/-- Every step of a history is a call made in a state that earlier calls left. -/
lemma exists_of_mem_history {w : Workspace} {calls : List Call} {state : State} {step : Step}
    (h : step ∈ history w calls state) : ∃ before, step.run = (perform w step.call).run before := by
  induction calls generalizing state with
  | nil => cases h
  | cons call rest ih =>
    rcases List.mem_cons.1 h with rfl | hmem
    · exact ⟨state, rfl⟩
    · exact ih hmem

/-- What every call keeps is kept along a history. -/
lemma history_keeps {R : TraceRelation State} {w : Workspace}
    (h : ∀ call, Action.Keeps R (perform w call)) (calls : List Call) (state : State) :
    R.holds state ((history w calls state).flatMap fun step => step.run.events)
      (stateAfter w calls state) := by
  induction calls generalizing state with
  | nil => exact R.nil state
  | cons call rest ih => exact R.append (h call state) (ih _)

/-- Every slot follows its recent spawns.

**Proof sketch.** Induction on the calls, from the front to the end. The slot follows the trace of
the last call (`perform_follows`). If that call unset it, nothing is recent and it is unset;
otherwise the trace comes behind the recent spawns. -/
theorem history_follows (w : Workspace) (script : Script) (calls : List Call) (slot : Slot) :
    slot.Follows none (spawnsIn (recent slot (history w calls (.initial script))))
      ((stateAfter w calls (.initial script)).cache.get slot) := by
  induction calls using List.reverseRecOn with
  | nil => cases slot <;> exact .nil none
  | append_singleton calls call ih =>
    rw [history_concat, recent_concat, stateAfter_concat]
    obtain ⟨content, hfollows, hafter⟩ :=
      perform_follows w call (stateAfter w calls (.initial script)) slot
    rw [hafter]
    by_cases hforgets : ((perform w call).run (stateAfter w calls
        (.initial script))).outcome.isAnswered = true ∧ slot ∈ call.outdates
    · rw [if_pos hforgets, if_pos (by simpa [Step.forgets] using hforgets)]
      exact .nil none
    · rw [if_neg hforgets, if_neg (by simpa [Step.forgets] using hforgets), spawnsIn_concat]
      exact ih.append hfollows

end Session

end WorkTree
