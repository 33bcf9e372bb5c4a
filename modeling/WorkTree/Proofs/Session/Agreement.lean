import WorkTree.Proofs.Session.Calls

set_option relaxedAutoImplicit false
set_option autoImplicit false

/-!
# Answers, commands and slots agree

An order to alter a repository has three effects: it is answered or not, it gives commands to git,
and it unsets slots of the cache. These agree however the order ends: what is answered is what the
commands made, and the slots that are unset are those that it outdates.

## Main definitions

* `WorkTree.Order.Agrees` — a run of an order in which the three effects agree.

## Main results

* `WorkTree.Session.order_agrees` — they agree in every run.
-/

namespace WorkTree

namespace Order

/-- The effects of a run of an order agree. -/
structure Agrees (order : Order) (state : Session.State) (r : Run Session.State Answer) :
    Prop where
  /-- It is answered exactly when the commands of the alteration that it comes to were all given, in
  order, and all of them succeeded, and no others were given that may change something; the answer
  says that this alteration was made. The branch to push, if none is named, is the one that its slot
  holds in the end. -/
  answered_iff : ∀ answer, r.outcome = .answered answer ↔
    ∃ alteration, order.alteration? (r.state.cache.get .branch) = some alteration ∧
      answer = alteration.answer ∧
        List.Forall₂ Session.Made alteration.commands (r.spawns.filter Spawn.alters)
  /-- If it is answered, the slots that it outdates are unset. -/
  unset : r.outcome.isAnswered = true → ∀ slot ∈ order.call.outdates,
    r.state.cache.get slot = none
  /-- Any other slot that was set keeps what it holds. -/
  kept : ∀ slot value, state.cache.get slot = some value →
    ¬ (r.outcome.isAnswered = true ∧ slot ∈ order.call.outdates) →
      r.state.cache.get slot = some value
  /-- If it is not answered, no command that may change something has succeeded, save the staging of
  a commit. -/
  unmade : r.outcome.isAnswered = false → ∀ spawn ∈ r.spawns, spawn.alters = true →
    spawn.reply.isSuccess = true →
      spawn.args.head? = some "add" ∧ ∃ message files, order = .commit message files

/-- Unsetting the slots that an alteration outdates leaves open what the order comes to: only a push
goes by a slot, and it outdates none. -/
lemma alteration?_invalidate {order : Order} {cache : Cache} {alteration : Alteration}
    (h : order.alteration? (cache.get .branch) = some alteration) :
    order.alteration? ((cache.invalidate alteration.outdates).get .branch) = some alteration := by
  cases order with
  | push remote branch =>
    obtain ⟨named, rfl⟩ := push_of_alteration? h
    exact h
  | _ => exact h

end Order

/-- An alteration has commands. -/
lemma Alteration.commands_ne_nil (alteration : Alteration) : alteration.commands ≠ [] := by
  cases alteration <;> simp [commands]

namespace Session

/-- The spawns of an order that may change something are those of the commands that it carries
out. -/
lemma filter_alters {w : Workspace} {order : Order} {state : State} {given : List Spawn}
    {alteration : Alteration} {all : Bool} (gives : GivesAll alteration.commands given all) :
    (((prepare w order).run state).spawns ++ given).filter Spawn.alters = given := by
  rw [List.filter_append, List.filter_eq_nil_iff.2, List.nil_append,
    List.filter_eq_self.2 gives.alters]
  intro spawn hmem
  rw [prepare_not_alters w order state spawn hmem]
  exact Bool.false_ne_true

/-- An order is answered exactly when all commands of the alteration that it comes to succeed.

**Proof sketch.** By the three ways in which an order ends (`order_run`). Nothing that is done
before the alteration is settled may change anything, so the spawns that may are those of its
commands; and unsetting slots in the end does not change what the order comes to. -/
lemma order_answered_iff (w : Workspace) (order : Order) (state : State) (answer : Answer) :
    ((perform w order.call).run state).outcome = .answered answer ↔
      ∃ alteration,
        order.alteration? (((perform w order.call).run state).state.cache.get .branch) =
          some alteration ∧
        answer = alteration.answer ∧
        List.Forall₂ Made alteration.commands
          (((perform w order.call).run state).spawns.filter Spawn.alters) := by
  cases order_run w order state with
  | unprepared spawns _ outcome =>
    have hfilter : ((prepare w order).run state).spawns.filter Spawn.alters = [] :=
      List.filter_eq_nil_iff.2 fun spawn hmem => by
        rw [prepare_not_alters w order state spawn hmem]
        exact Bool.false_ne_true
    rw [spawns, hfilter]
    constructor
    · intro hanswer
      rw [hanswer] at outcome
      cases outcome
    · rintro ⟨alteration, -, -, hmade⟩
      exact absurd (List.forall₂_nil_right_iff.1 hmade) alteration.commands_ne_nil
  | stopped alteration given settled gives spawns cache outcome =>
    rw [spawns, filter_alters gives, cache, settled]
    constructor
    · intro hanswer
      rw [hanswer] at outcome
      cases outcome
    · rintro ⟨_, hsettled, -, hmade⟩
      obtain rfl := Option.some.inj hsettled
      cases gives.all_iff.2 hmade
  | made alteration given settled gives spawns cache outcome =>
    rw [spawns, filter_alters gives, cache, Order.alteration?_invalidate settled, outcome]
    constructor
    · intro hanswer
      exact ⟨alteration, rfl, (Outcome.answered.inj hanswer).symm, gives.all_iff.1 rfl⟩
    · rintro ⟨_, hsettled, rfl, -⟩
      obtain rfl := Option.some.inj hsettled
      rfl

/-- **Answers, commands and slots agree** in every run of an order, whatever the state, the replies
and the arguments.

**Proof sketch.** Answers and commands agree by `order_answered_iff`. A slot that was set stays as
it is along the trace and is unset only in the end (`perform_follows`). Of an alteration that was
not made only commands before the last one have succeeded (`made_of_not_answered`), and only a
commit has such a command. -/
theorem order_agrees (w : Workspace) (order : Order) (state : State) :
    order.Agrees state ((perform w order.call).run state) where
  answered_iff := order_answered_iff w order state
  unset := by
    intro hanswered slot hmem
    obtain ⟨content, -, hafter⟩ := perform_follows w order.call state slot
    rw [hafter, if_pos ⟨hanswered, hmem⟩]
  kept := by
    intro slot value hslot hnot
    obtain ⟨content, hfollows, hafter⟩ := perform_follows w order.call state slot
    rw [hslot] at hfollows
    rw [hafter, if_neg hnot, hfollows.of_set.1]
  unmade := by
    intro hanswered spawn hmem halters hreply
    obtain ⟨current, alteration, settled, command, hcommand, hnames⟩ :=
      made_of_not_answered order hanswered hmem halters hreply
    rw [hnames.head?]
    cases order with
    | commit message files =>
      obtain ⟨⟨_, scope⟩, rfl⟩ := Order.commit_of_alteration? settled
      obtain rfl := List.mem_singleton.1 hcommand
      refine ⟨?_, message, files, rfl⟩
      cases scope <;> rfl
    | push remote branch =>
      obtain ⟨named, rfl⟩ := Order.push_of_alteration? settled
      cases hcommand
    | _ =>
      obtain rfl := Option.some.inj settled
      cases hcommand

end Session

end WorkTree
