import WorkTree.Proofs.Session.Calls

set_option relaxedAutoImplicit false
set_option autoImplicit false

/-!
# A session beside a fresh one

Two runs are compared: one of a session whose cache already holds something, and one of a session
that knows less. While git answers the same arguments always alike, what the cache holds is what git
would answer now, so the two come to the same; the first one only leaves out commands whose answer
it knows.

## Main definitions

* `WorkTree.Script.IsStable` — no arguments have more than one reply.
* `WorkTree.Omits` — spawns with some of the commands left out that fill slots.
* `WorkTree.Session.Aligned` — two states of which one knows what the other one knows, and all that
  is known is what git would answer.
* `WorkTree.Session.Mirrors` — from such states two actions come to the same.

## Main results

* `WorkTree.Session.Mirrors.bind`, `WorkTree.Session.Mirrors.attempt` — joined and attempted actions
  come to the same when their parts do.
* `WorkTree.Session.Mirrors.asking` — so does asking the command of a slot, unless the slot is set.
-/

namespace WorkTree

/-! ## Stable scripts -/

/-- No arguments have more than one reply in a script. -/
def Script.IsStable (script : Script) : Prop :=
  ∀ args replies, script.entries.lookup args = some replies → replies.length ≤ 1

/-- A stable script stays as it is. -/
lemma Script.IsStable.answer {script : Script} (h : script.IsStable) (args : List String) :
    (script.answer args).2 = script := by
  unfold Script.answer
  cases hlookup : script.entries.lookup args with
  | none => rfl
  | some replies =>
    match replies, h args replies hlookup with
    | [], _ => rfl
    | [reply], _ => rfl
    | reply :: next :: rest, hlength => simp at hlength

/-- What the command of a slot gives it to keep, when a script answers. -/
def Workspace.kept? (w : Workspace) (script : Script) (slot : Slot) : Option Value :=
  ((w.give slot.command).run script).outcome.answer?.bind slot.reading

/-- Giving a command leaves a stable script as it is. -/
lemma Workspace.give_state {script : Script} (h : script.IsStable) (w : Workspace)
    (command : Command) : ((w.give command).run script).state = script := by
  cases w.give_run command script with
  | never _ state _ => exact state
  | once spawn _ _ reply _ =>
    have hstate := h.answer spawn.args
    rw [reply] at hstate
    exact hstate

/-! ## Omissions -/

/-- Spawns with some of the commands left out that fill slots. -/
inductive Omits : List Spawn → List Spawn → Prop where
  | nil : Omits [] []
  | keep (spawn : Spawn) {spawns spawns' : List Spawn} (h : Omits spawns spawns') :
      Omits (spawn :: spawns) (spawn :: spawns')
  | drop (slot : Slot) {spawn : Spawn} {spawns spawns' : List Spawn}
      (hargs : spawn.args = slot.words) (h : Omits spawns spawns') :
      Omits spawns (spawn :: spawns')

namespace Omits

/-- Nothing has to be left out. -/
lemma refl (spawns : List Spawn) : Omits spawns spawns := by
  induction spawns with
  | nil => exact .nil
  | cons spawn spawns ih => exact .keep spawn ih

/-- What may be left out of two lists may be left out of one behind the other. -/
lemma append {spawns spawns' others others' : List Spawn} (h : Omits spawns spawns')
    (h' : Omits others others') : Omits (spawns ++ others) (spawns' ++ others') := by
  induction h with
  | nil => exact h'
  | keep spawn _ ih => exact .keep spawn ih
  | drop slot hargs _ ih => exact .drop slot hargs ih

end Omits

/-- Two outcomes are the same, save that answers are only related. -/
inductive Outcome.Rel {α β : Type} (V : α → β → Prop) : Outcome α → Outcome β → Prop where
  | answered {value : α} {value' : β} (h : V value value') :
      Rel V (.answered value) (.answered value')
  | failed (cause : Cause) : Rel V (.failed cause) (.failed cause)
  | aborted (fault : Fault) : Rel V (.aborted fault) (.aborted fault)

/-- Two answers to an attempt are the same, save that answers are only related. -/
inductive AttemptRel {α β : Type} (V : α → β → Prop) :
    Except Cause α → Except Cause β → Prop where
  | ok {value : α} {value' : β} (h : V value value') : AttemptRel V (.ok value) (.ok value')
  | error (cause : Cause) : AttemptRel V (.error cause) (.error cause)

namespace Session

/-! ## Aligned states -/

/-- A state beside one that knows less: git answers in both from one and the same stable script;
what the first cache holds is what git would answer; it holds all that the second one holds, and in
some slots no more. -/
structure Aligned (w : Workspace) (settled : List Slot) (state fresh : State) : Prop where
  stable : fresh.script.IsStable
  script_eq : state.script = fresh.script
  faithful : ∀ slot value, state.cache.get slot = some value →
    w.kept? fresh.script slot = some value
  knows : ∀ slot value, fresh.cache.get slot = some value → state.cache.get slot = some value
  settled : ∀ slot ∈ settled, state.cache.get slot = fresh.cache.get slot

variable {w : Workspace} {before after settled : List Slot} {state fresh : State}

/-- The script of the first of two aligned states is stable. -/
lemma Aligned.stable_script (h : Aligned w settled state fresh) : state.script.IsStable :=
  h.script_eq ▸ h.stable

/-- States that are aligned stay so when fewer slots are to be settled. -/
lemma Aligned.mono (h : Aligned w after state fresh) (hsub : before ⊆ after) :
    Aligned w before state fresh :=
  { h with settled := fun slot hmem => h.settled slot (hsub hmem) }

/-- Unsetting the same slots keeps states aligned. -/
lemma Aligned.invalidate (h : Aligned w settled state fresh) (slots : List Slot) :
    Aligned w settled { state with cache := state.cache.invalidate slots }
      { fresh with cache := fresh.cache.invalidate slots } where
  stable := h.stable
  script_eq := h.script_eq
  faithful := by
    intro slot value hslot
    rw [Cache.get_invalidate] at hslot
    split at hslot
    · cases hslot
    · exact h.faithful slot value hslot
  knows := by
    intro slot value hslot
    rw [Cache.get_invalidate] at hslot ⊢
    split at hslot
    · cases hslot
    · next hmem => rw [if_neg hmem]; exact h.knows slot value hslot
  settled := by
    intro slot hmem
    rw [Cache.get_invalidate, Cache.get_invalidate]
    split
    · rfl
    · exact h.settled slot hmem

/-- Filling a slot with what git answers keeps states aligned, and settles the slot. -/
lemma Aligned.fill {slot : Slot} {value : Value} {cache : Cache}
    (h : Aligned w settled state fresh) (hkept : w.kept? fresh.script slot = some value)
    (hcache : ∀ other, cache.get other =
      if other = slot then some value else state.cache.get other) :
    Aligned w (slot :: settled) { state with cache }
      { fresh with cache := fresh.cache.write slot (some value) } where
  stable := h.stable
  script_eq := h.script_eq
  faithful := by
    intro other found hfound
    rw [hcache] at hfound
    split at hfound
    · next hother => rw [hother, hkept, hfound]
    · exact h.faithful other found hfound
  knows := by
    intro other found hfound
    rw [Cache.get_write] at hfound
    rw [hcache]
    split at hfound
    · next hother => rw [if_pos hother, hfound]
    · next hother => rw [if_neg hother]; exact h.knows other found hfound
  settled := by
    intro other hmem
    rw [hcache, Cache.get_write]
    split
    · rfl
    · next hother => exact h.settled other (List.mem_of_ne_of_mem hother hmem)

/-- A slot that is unset on both sides is settled. -/
lemma Aligned.settle {slot : Slot} (h : Aligned w settled state fresh)
    (hslot : state.cache.get slot = fresh.cache.get slot) :
    Aligned w (slot :: settled) state fresh :=
  { h with
    settled := by
      intro other hmem
      rcases List.mem_cons.1 hmem with rfl | hmem
      · exact hslot
      · exact h.settled other hmem }

/-- Giving a command while the script is stable leaves the state as it is. -/
lemma run_git_of_stable {state : State} (h : state.script.IsStable) (command : Command) :
    (git w command).run state =
      { outcome := ((w.give command).run state.script).outcome, state
        events := ((w.give command).run state.script).events } := by
  change (ofRunner (w.give command)).run state = _
  rw [run_ofRunner, w.give_state h command]

/-! ## Mirrored runs -/

/-- A run beside one of an action that knows less: the outcomes are the same, save that answers are
only related; the states are aligned; and the spawns are the same, save that some are left out of
commands that fill slots. -/
structure Mirrored {α β : Type} (w : Workspace) (settled : List Slot) (V : α → β → Prop)
    (r : Run State α) (r' : Run State β) : Prop where
  outcome : r.outcome.Rel V r'.outcome
  aligned : Aligned w settled r.state r'.state
  omits : Omits r.spawns r'.spawns

/-- From aligned states two actions come to the same. -/
def Mirrors {α β : Type} (w : Workspace) (before after : List Slot) (V : α → β → Prop)
    (action : Session α) (action' : Session β) : Prop :=
  ∀ state fresh, Aligned w before state fresh →
    Mirrored w after V (action.run state) (action'.run fresh)

namespace Mirrors

variable {α β γ δ : Type} {V : α → β → Prop} {W : γ → δ → Prop}

/-- Answers at once that are related come to the same. -/
lemma pure {value : α} {value' : β} (h : V value value') :
    Mirrors w settled settled V (Pure.pure value) (Pure.pure value') :=
  fun _ _ haligned => ⟨.answered h, haligned, .nil⟩

/-- A failure comes to the same as itself. -/
lemma fail (cause : Cause) :
    Mirrors w settled settled V (Action.fail cause) (Action.fail cause) :=
  fun _ _ haligned => ⟨.failed cause, haligned, .nil⟩

/-- A fault comes to the same as itself. -/
lemma abort (fault : Fault) :
    Mirrors w settled settled V (Action.abort fault) (Action.abort fault) :=
  fun _ _ haligned => ⟨.aborted fault, haligned, .nil⟩

/-- An answer, or a fault in its place, comes to the same as itself. -/
lemma orAbort (value : Except Fault α) :
    Mirrors w settled settled Eq (Action.orAbort value) (Action.orAbort value) := by
  cases value with
  | ok value => exact pure rfl
  | error fault => exact abort fault

/-- An answer, or a failure in its place, comes to the same as itself. -/
lemma orFail (value : Except Cause α) :
    Mirrors w settled settled Eq (Action.orFail value) (Action.orFail value) := by
  cases value with
  | ok value => exact pure rfl
  | error cause => exact fail cause

/-- Failing unless a condition holds comes to the same as itself. -/
lemma ensure (condition : Bool) (cause : Cause) :
    Mirrors w settled settled Eq (Action.ensure condition cause)
      (Action.ensure condition cause) := by
  cases condition with
  | false => exact fail cause
  | true => exact pure rfl

/-- Writing to the log comes to the same as itself. -/
lemma log (severity : Log.Severity) (message : String) :
    Mirrors w settled settled Eq (Session.log severity message)
      (Session.log severity message) :=
  fun _ _ haligned => ⟨.answered rfl, haligned, .nil⟩

/-- What settles some slots settles fewer. -/
lemma weaken {action : Session α} {action' : Session β}
    (h : Mirrors w before after V action action') (hsub : settled ⊆ after) :
    Mirrors w before settled V action action' := by
  intro state fresh haligned
  obtain ⟨houtcome, hafter, homits⟩ := h state fresh haligned
  exact ⟨houtcome, hafter.mono hsub, homits⟩

/-- Answers that are related are related in a looser way. -/
lemma imp {W : α → β → Prop} {action : Session α} {action' : Session β}
    (h : Mirrors w before after V action action')
    (hanswers : ∀ value value', V value value' → W value value') :
    Mirrors w before after W action action' := by
  intro state fresh haligned
  obtain ⟨houtcome, hafter, homits⟩ := h state fresh haligned
  refine ⟨?_, hafter, homits⟩
  generalize (action.run state).outcome = outcome at houtcome ⊢
  generalize (action'.run fresh).outcome = outcome' at houtcome ⊢
  cases houtcome with
  | answered hV => exact .answered (hanswers _ _ hV)
  | failed cause => exact .failed cause
  | aborted fault => exact .aborted fault

/-- Joined actions come to the same when their parts do; the first part may settle more slots. -/
lemma bind_settling {first : Session α} {first' : Session β} {next : α → Session γ}
    {next' : β → Session δ} (hfirst : Mirrors w before after V first first')
    (hsub : before ⊆ after)
    (hnext : ∀ value value', V value value' →
      Mirrors w after after W (next value) (next' value')) :
    Mirrors w before before W (first >>= next) (first' >>= next') := by
  intro state fresh haligned
  obtain ⟨houtcome, hafter, homits⟩ := hfirst state fresh haligned
  cases hrun : (first.run state).outcome with
  | answered value =>
    rw [hrun] at houtcome
    generalize hrun' : (first'.run fresh).outcome = outcome' at houtcome
    cases houtcome with
    | @answered _ value' hV =>
      obtain ⟨hout, hstates, homits'⟩ := hnext value value' hV _ _ hafter
      refine ⟨?_, ?_, ?_⟩
      · rw [Action.run_bind_of_answered hrun, Action.run_bind_of_answered hrun']
        exact hout
      · rw [Action.state_bind_of_answered hrun, Action.state_bind_of_answered hrun']
        exact hstates.mono hsub
      · rw [Action.spawns_bind_of_answered hrun, Action.spawns_bind_of_answered hrun']
        exact homits.append homits'
  | failed cause =>
    rw [hrun] at houtcome
    generalize hrun' : (first'.run fresh).outcome = outcome' at houtcome
    cases houtcome
    rw [Action.bind_run, Action.bind_run, hrun, hrun']
    exact ⟨.failed cause, hafter.mono hsub, homits⟩
  | aborted fault =>
    rw [hrun] at houtcome
    generalize hrun' : (first'.run fresh).outcome = outcome' at houtcome
    cases houtcome
    rw [Action.bind_run, Action.bind_run, hrun, hrun']
    exact ⟨.aborted fault, hafter.mono hsub, homits⟩

/-- Joined actions come to the same when their parts do. -/
lemma bind {first : Session α} {first' : Session β} {next : α → Session γ}
    {next' : β → Session δ} (hfirst : Mirrors w settled settled V first first')
    (hnext : ∀ value value', V value value' →
      Mirrors w settled settled W (next value) (next' value')) :
    Mirrors w settled settled W (first >>= next) (first' >>= next') :=
  hfirst.bind_settling (List.Subset.refl _) hnext

/-- Joined actions come to the same when the first part answers the same. -/
lemma bind_eq {first first' : Session α} {next : α → Session γ} {next' : α → Session δ}
    (hfirst : Mirrors w settled settled Eq first first')
    (hnext : ∀ value, Mirrors w settled settled W (next value) (next' value)) :
    Mirrors w settled settled W (first >>= next) (first' >>= next') :=
  hfirst.bind fun value _ hvalue => hvalue ▸ hnext value

/-- Actions with answers written in another way come to the same when the actions do. -/
lemma map {first : Session α} {first' : Session β} {f : α → γ} {f' : β → δ}
    (hfirst : Mirrors w settled settled V first first')
    (hanswers : ∀ value value', V value value' → W (f value) (f' value')) :
    Mirrors w settled settled W (f <$> first) (f' <$> first') := by
  rw [← bind_pure_comp, ← bind_pure_comp]
  exact hfirst.bind fun value value' hV => pure (hanswers value value' hV)

/-- Attempted actions come to the same when the actions do. -/
lemma attempt {action : Session α} {action' : Session β}
    (h : Mirrors w before after V action action') :
    Mirrors w before after (AttemptRel V) action.attempt action'.attempt := by
  intro state fresh haligned
  obtain ⟨houtcome, hafter, homits⟩ := h state fresh haligned
  refine ⟨?_, hafter, homits⟩
  rw [Action.run_attempt, Action.run_attempt]
  dsimp only
  generalize (action.run state).outcome = outcome at houtcome ⊢
  generalize (action'.run fresh).outcome = outcome' at houtcome ⊢
  cases houtcome with
  | answered hV => exact .answered (.ok hV)
  | failed cause => exact .answered (.error cause)
  | aborted fault => exact .aborted fault

/-- A command comes to the same as itself. -/
lemma git (command : Command) :
    Mirrors w settled settled Eq (Session.git w command) (Session.git w command) := by
  intro state fresh haligned
  rw [run_git_of_stable haligned.stable, run_git_of_stable haligned.stable_script,
    haligned.script_eq]
  refine ⟨?_, haligned, .refl _⟩
  cases ((w.give command).run fresh.script).outcome with
  | answered completion => exact .answered rfl
  | failed cause => exact .failed cause
  | aborted fault => exact .aborted fault

/-- The command of a slot is started when it is answered, and may be left out. -/
lemma omits_of_kept {slot : Slot} {script : Script} {value : Value}
    (h : w.kept? script slot = some value) :
    Omits [] ((w.give slot.command).run script).spawns := by
  cases w.give_run slot.command script with
  | never _ _ outcome =>
    obtain ⟨completion, hcompletion, -⟩ := Option.bind_eq_some_iff.1 h
    rw [Outcome.answer?_eq_some_iff.1 hcompletion] at outcome
    cases outcome
  | once spawn spawns args _ _ =>
    rw [spawns]
    exact .drop slot (Slot.names_iff.1 args) .nil

/-- Attempting a command while the script is stable leaves the state as it is. -/
lemma run_attempt_git {command : Command} {state : State} {outcome : Outcome Completion}
    (hstable : state.script.IsStable)
    (houtcome : ((w.give command).run state.script).outcome = outcome) :
    (Action.attempt (Session.git w command)).run state =
      { outcome := outcome.attempted, state
        events := ((w.give command).run state.script).events } := by
  rw [Action.run_attempt, run_git_of_stable hstable, houtcome]

/-- When the command of a slot is answered with something to keep, the slot is filled. -/
lemma run_asking {slot : Slot} {next : Except Cause Completion → Session α}
    {completion : Completion} {value : Value} {answer : α} {state : State}
    (hstable : state.script.IsStable)
    (houtcome : ((w.give slot.command).run state.script).outcome = .answered completion)
    (hvalue : value.toOption = some value)
    (hnext : next (.ok completion) = writeSlot slot value >>= fun _ => Pure.pure answer) :
    (Action.attempt (Session.git w slot.command) >>= next).run state =
      { outcome := .answered answer
        state := { state with cache := state.cache.write slot (some value) }
        events := ((w.give slot.command).run state.script).events } := by
  have hwrite : (writeSlot slot value >>= fun _ => (Pure.pure answer : Session α)).run state =
      { outcome := .answered answer
        state := { state with cache := state.cache.set slot value } } := rfl
  rw [Action.bind_run, run_attempt_git hstable houtcome]
  dsimp only [Outcome.attempted]
  rw [hnext, hwrite, List.append_nil, Cache.set, hvalue]

/-- When both sides have to ask, they come to the same.

**Proof sketch.** Both are answered the same. What is to be kept fills the slot on both sides; what
is not to be kept is an answer to go on with from states in which the slot is settled. -/
lemma asking_both {slot : Slot} {next : Except Cause Completion → Session α}
    {V : α → α → Prop} {filled : Value → α} (haligned : Aligned w settled state fresh)
    (hslot : state.cache.get slot = fresh.cache.get slot)
    (hfills : ∀ completion value, slot.reading completion = some value →
      value.toOption = some value ∧
        next (.ok completion) = writeSlot slot value >>= fun _ => Pure.pure (filled value))
    (hleaves : ∀ answer : Except Cause Completion, answer.toOption.bind slot.reading = none →
      Mirrors w (slot :: settled) (slot :: settled) V (next answer) (next answer))
    (hrefl : ∀ value, V value value) :
    Mirrored w (slot :: settled) V
      ((Action.attempt (Session.git w slot.command) >>= next).run state)
      ((Action.attempt (Session.git w slot.command) >>= next).run fresh) := by
  have hstable := haligned.stable_script
  have hsettled := haligned.settle hslot
  have hevents : ((w.give slot.command).run state.script).events =
      ((w.give slot.command).run fresh.script).events := by rw [haligned.script_eq]
  cases houtcome : ((w.give slot.command).run fresh.script).outcome with
  | aborted fault =>
    rw [Action.bind_run, Action.bind_run, run_attempt_git haligned.stable houtcome,
      run_attempt_git hstable (haligned.script_eq ▸ houtcome), hevents]
    exact ⟨.aborted fault, hsettled, .refl _⟩
  | failed cause =>
    obtain ⟨hout, hafter, homits⟩ := hleaves (.error cause) rfl state fresh hsettled
    rw [Action.bind_run, Action.bind_run, run_attempt_git haligned.stable houtcome,
      run_attempt_git hstable (haligned.script_eq ▸ houtcome), hevents]
    refine ⟨hout, hafter, ?_⟩
    simpa [Run.spawns] using (Omits.refl _).append homits
  | answered completion =>
    cases hreading : slot.reading completion with
    | none =>
      obtain ⟨hout, hafter, homits⟩ := hleaves (.ok completion) hreading state fresh hsettled
      rw [Action.bind_run, Action.bind_run, run_attempt_git haligned.stable houtcome,
        run_attempt_git hstable (haligned.script_eq ▸ houtcome), hevents]
      refine ⟨hout, hafter, ?_⟩
      simpa [Run.spawns] using (Omits.refl _).append homits
    | some value =>
      obtain ⟨hvalue, hnext⟩ := hfills completion value hreading
      have hkept : w.kept? fresh.script slot = some value := by
        rw [Workspace.kept?, houtcome]
        exact hreading
      rw [run_asking haligned.stable houtcome hvalue hnext,
        run_asking hstable (haligned.script_eq ▸ houtcome) hvalue hnext, hevents]
      exact ⟨.answered (hrefl _),
        haligned.fill hkept fun other => Cache.get_write state.cache slot other _, .refl _⟩

/-- Asking the command of a slot comes to the same, whether the slot is set or not: when it is set
and the other side has to ask, the command is answered with what the slot holds.

**Proof sketch.** A slot that the fresh side knows is set on both sides to the same. If only the
fresh side has to ask, what the slot holds is what git answers (`Aligned.faithful`), so that the
fresh side fills its slot with it; its one spawn is that of the command of the slot. If both have to
ask, they come to the same (`asking_both`). -/
lemma asking (slot : Slot) (given filled : Value → α) {next : Option Value → Session α}
    {accept : Completion → Except Cause β} {taken : Except Cause β → Session α}
    {V : α → α → Prop}
    (hset : ∀ value, next (some value) = Pure.pure (given value))
    (hunset : next none = Action.attempt (Session.git w slot.command >>= fun completion =>
      Action.orFail (accept completion)) >>= taken)
    (hfills : ∀ completion value, slot.reading completion = some value →
      value.toOption = some value ∧
        taken (accept completion) = writeSlot slot value >>= fun _ => Pure.pure (filled value))
    (hleaves : ∀ answer : Except Cause Completion, answer.toOption.bind slot.reading = none →
      Mirrors w (slot :: settled) (slot :: settled) V (taken (answer >>= accept))
        (taken (answer >>= accept)))
    (hrefl : ∀ value, V value value) (hsame : ∀ value, V (given value) (filled value)) :
    Mirrors w settled (slot :: settled) V (readSlot slot >>= next) (readSlot slot >>= next) := by
  intro state fresh haligned
  rw [Action.attempt_bind_orFail, bind_assoc] at hunset
  simp only [pure_bind] at hunset
  rw [run_readSlot_bind, run_readSlot_bind]
  cases hfresh : fresh.cache.get slot with
  | some value =>
    have hstate := haligned.knows slot value hfresh
    rw [hstate, hset]
    exact ⟨.answered (hrefl _), haligned.settle (hstate.trans hfresh.symm), .nil⟩
  | none =>
    cases hstate : state.cache.get slot with
    | some value =>
      have hkept := haligned.faithful slot value hstate
      obtain ⟨completion, hcompletion, hreading⟩ := Option.bind_eq_some_iff.1 hkept
      obtain ⟨hvalue, htaken⟩ := hfills completion value hreading
      rw [hset, hunset,
        run_asking haligned.stable (Outcome.answer?_eq_some_iff.1 hcompletion) hvalue htaken]
      refine ⟨.answered (hsame value), haligned.fill hkept fun other => ?_, omits_of_kept hkept⟩
      split
      · next hother => rw [hother, hstate]
      · rfl
    | none =>
      rw [hunset]
      exact asking_both haligned (hstate.trans hfresh.symm) hfills hleaves hrefl

/-- A command that has to succeed comes to the same as itself. -/
lemma gitChecked (command : Command) :
    Mirrors w settled settled Eq (Session.gitChecked w command)
      (Session.gitChecked w command) := by
  rw [gitChecked_eq]
  exact (git command).bind_eq fun completion => orFail _

end Mirrors

end Session

end WorkTree
