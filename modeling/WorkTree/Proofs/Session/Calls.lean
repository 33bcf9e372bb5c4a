import WorkTree.Proofs.Session.Alterations
import WorkTree.Proofs.Session.Slots

set_option relaxedAutoImplicit false
set_option autoImplicit false

/-!
# What calls keep and what they outdate

A call asks git, may change the repository, and may unset slots of the cache. What its parts keep is
kept by the call. A slot follows the trace of a call, and then, if the call was answered and
outdates the slot, it is unset.

## Main definitions

* `WorkTree.Call.mutation?`, `WorkTree.Call.outdates` — the mutation that a call is, and the slots
  that it unsets when it is answered.
* `WorkTree.Call.alters` — whether a call is to change the repository.
* `WorkTree.Call.Gives` — the commands that a call may give to change something.

## Main results

* `WorkTree.Session.KeptByLooks.perform`, `WorkTree.Session.KeptByQuestions.perform` — a call keeps
  what its parts keep.
* `WorkTree.Session.perform_follows` — what a slot holds after a call.
* `WorkTree.Session.perform_asks` — a call that does not ask a question does not start its command.
-/

namespace WorkTree

namespace Call

/-- The mutation that a call is, if it is one. -/
def mutation? : Call → Option Mutation
  | .createBranch _ checkout =>
    some (if checkout.holds then .createBranchCheckout else .createBranch)
  | .checkoutBranch _ => some .checkoutBranch
  | .deleteBranch _ _ => some .deleteBranch
  | .commit _ _ => some .commitChanges
  | .push _ _ => some .pushChanges
  | .cleanup _ _ => some .cleanupMergedBranches
  | _ => none

/-- The slots that a call unsets when it is answered: those that it outdates as a mutation, or all
of them when it is the order to clear the cache. -/
def outdates : Call → List Slot
  | .clearCache => Slot.all
  | call => (call.mutation?.map Mutation.invalidates).getD []

/-- Whether a call is to change the repository. -/
def alters : Call → Bool
  | .createBranch _ _ | .checkoutBranch _ | .deleteBranch _ _ | .commit _ _ | .push _ _
  | .cleanup _ false => true
  | _ => false

/-- The commands that may change something and that a call may give: those of the alterations that
it comes to as an order, or, unless it only reports, those that delete branches one after the
other. -/
inductive Gives : Call → Command → Prop where
  | order {order : Order} {current : Option Value} {alteration : Alteration} {command : Command}
      (settled : order.alteration? current = some alteration)
      (hmem : command ∈ alteration.commands) : Gives order.call command
  | cleanup (target : Value) (name : String) :
      Gives (.cleanup target false) (.deleteBranch (.text name) false)

/-- The commands that a call may give to change something do not only ask. -/
lemma Gives.not_isReadOnly {call : Call} {command : Command} (h : call.Gives command) :
    command.isReadOnly = false := by
  cases h with
  | order _ hmem => exact Alteration.not_isReadOnly hmem
  | cleanup target name => rfl

end Call

/-- The alteration that an order comes to is the mutation that its call is. -/
lemma Order.outdates_of_alteration? {order : Order} {current : Option Value}
    {alteration : Alteration} (h : order.alteration? current = some alteration) :
    alteration.outdates = order.call.outdates := by
  cases order with
  | commit message files =>
    obtain ⟨info, rfl⟩ := commit_of_alteration? h
    rfl
  | push remote branch =>
    obtain ⟨named, rfl⟩ := push_of_alteration? h
    rfl
  | _ =>
    obtain rfl := Option.some.inj h
    rfl

namespace Session

open WorkTree.Action (Keeps)

/-! ## Keeping trace relations -/

/-- Deleting branches one after the other keeps what deleting one of them and the log keep. -/
lemma deleteEach_keeps {R : TraceRelation State} {w : Workspace}
    (hlog : ∀ severity message, Keeps R (log severity message)) {names : List String}
    (hgit : ∀ name ∈ names, Keeps R (git w (.deleteBranch (.text name) false)))
    (report : CleanupReport) : Keeps R (deleteEach w names report) := by
  induction names generalizing report with
  | nil => exact .pure report
  | cons name rest ih =>
    have hrest : ∀ report, Keeps R (deleteEach w rest report) :=
      ih fun name' hmem => hgit name' (List.mem_cons_of_mem _ hmem)
    refine (gitChecked_keeps (hgit name List.mem_cons_self)).attempt.bind fun answer => ?_
    cases answer with
    | ok output => exact hrest _
    | error cause => exact (hlog _ _).bind fun _ => hrest _

/-- Unsetting the slots of a mutation keeps a trace relation that does not mind it. -/
lemma invalidate_keeps {R : TraceRelation State}
    (hlog : ∀ severity message, Keeps R (log severity message)) (mutation : Mutation)
    (hunset : ∀ state : State, R.holds state []
      { state with cache := state.cache.invalidate mutation.invalidates }) :
    Keeps R (invalidate mutation) := by
  refine Keeps.bind ?_ fun _ state => hunset state
  cases mutation <;> first | exact hlog _ _ | exact .pure ()

/-- Giving commands one after the other keeps what each of them keeps. -/
lemma giveAll_keeps {R : TraceRelation State} {w : Workspace} {commands : List Command}
    (hgit : ∀ command ∈ commands, Keeps R (git w command)) : Keeps R (giveAll w commands) := by
  induction commands with
  | nil => exact .pure ()
  | cons command rest ih =>
    refine (gitChecked_keeps (hgit command List.mem_cons_self)).bind fun _ => ?_
    exact ih fun command' hmem => hgit command' (List.mem_cons_of_mem _ hmem)

/-- Carrying out an alteration keeps what its commands, the log and unsetting the slots that it
outdates keep. -/
lemma carryOut_keeps {R : TraceRelation State} {w : Workspace} {alteration : Alteration}
    (hlog : ∀ severity message, Keeps R (log severity message))
    (hgit : ∀ command ∈ alteration.commands, Keeps R (git w command))
    (hunset : ∀ state : State, R.holds state []
      { state with cache := state.cache.invalidate alteration.outdates }) :
    Keeps R (carryOut w alteration) := by
  refine (giveAll_keeps hgit).bind fun _ => ?_
  exact (invalidate_keeps hlog _ hunset).bind fun _ => (hlog _ _).bind fun _ => .pure _

section

variable {R : TraceRelation State} {w : Workspace} {call : Call}

/-- A call that is not to change the repository keeps what its parts keep: the questions that it
asks, the least records of the log, and unsetting the slots that it outdates. -/
lemma KeptByLooks.perform (h : KeptByLooks R w call.Asks) (hcall : call.alters = false)
    (hlog : ∀ message, Keeps R (log .debug message))
    (hunset : ∀ state : State, R.holds state []
      { state with cache := state.cache.invalidate call.outdates }) :
    Keeps R (perform w call) := by
  cases call with
  | checkInstallation => exact h.installation.map _
  | isRepository => exact h.isRepository.map _
  | version => exact (readSlot_keeps .version).map _
  | status => exact (h.status rfl).map _
  | currentBranch => exact (h.currentBranch rfl).map _
  | remotes => exact (h.remotes rfl).map _
  | health => exact (h.report fun _ => trivial).map _
  | overview => exact (h.overview fun _ => trivial).map _
  | validateBranchName name lead => exact .pure _
  | listBranches => exact (h.listing rfl).map _
  | cleanup target dryRun =>
    cases dryRun with
    | false => cases hcall
    | true =>
      refine Keeps.map _ (h.gate.bind fun _ => ?_)
      refine (h.require target).bind fun _ => ?_
      refine (gitChecked_keeps (h.listMerged _)).bind fun output => ?_
      refine (h.currentName rfl).bind fun current => ?_
      exact (Keeps.orAbort _).bind fun _ => .pure _
  | clearCache =>
    refine Keeps.map _ (Keeps.bind (fun state => hunset state) fun _ => ?_)
    exact hlog _
  | _ => cases hcall

namespace KeptByQuestions

/-- An order keeps what its parts keep. -/
lemma order (order : Order) (h : KeptByQuestions R w order.call.Asks)
    (hgit : ∀ command, order.call.Gives command → Keeps R (git w command))
    (hunset : ∀ state : State, R.holds state []
      { state with cache := state.cache.invalidate order.call.outdates }) :
    Keeps R (perform w order.call) := by
  rw [perform_order]
  refine (h.prepare fun _ hasked => hasked).bind_of_answered fun state alteration halteration => ?_
  have hsettled := prepare_answered halteration
  rw [← Order.outdates_of_alteration? hsettled] at hunset
  have hcarry : Keeps R (carryOut w alteration) :=
    carryOut_keeps h.log (fun command hmem => hgit command (.order hsettled hmem)) hunset
  exact hcarry _

/-- A call keeps what its parts keep: the questions that it asks, the commands that change
something, and unsetting the slots that it outdates. -/
lemma perform (h : KeptByQuestions R w call.Asks)
    (hgit : ∀ command, call.Gives command → Keeps R (git w command))
    (hunset : ∀ state : State, R.holds state []
      { state with cache := state.cache.invalidate call.outdates }) :
    Keeps R (perform w call) := by
  cases call with
  | createBranch name checkout => exact order (.create name checkout) h hgit hunset
  | checkoutBranch name => exact order (.checkOut name) h hgit hunset
  | deleteBranch name force => exact order (.delete name force) h hgit hunset
  | commit message files => exact order (.commit message files) h hgit hunset
  | push remote branch => exact order (.push remote branch) h hgit hunset
  | cleanup target dryRun =>
    cases dryRun with
    | true => exact h.toKeptByLooks.perform rfl (h.log _) hunset
    | false =>
      refine Keeps.map _ (h.gate.bind fun _ => ?_)
      refine (h.require target).bind fun _ => ?_
      refine (gitChecked_keeps (h.listMerged _)).bind fun output => ?_
      refine (h.currentName rfl).bind fun current => ?_
      refine (Keeps.orAbort _).bind fun _ => ?_
      refine (deleteEach_keeps h.log (fun name _ => hgit _ (.cleanup target name)) _).bind
        fun report => ?_
      refine (invalidate_keeps h.log .cleanupMergedBranches hunset).bind fun _ => ?_
      exact (h.log _ _).bind fun _ => .pure _
  | _ => exact h.toKeptByLooks.perform rfl (h.log _) hunset

end KeptByQuestions

end

/-! ## Slots after a call -/

/-- What a slot holds after an order.

**Proof sketch.** Preparing the order only looks, so the slot follows the trace that far
(`keptByQuestions_tracking`). The commands that are then given are not its own. If they all succeed,
the slots that the alteration outdates are unset in the end. -/
lemma order_follows (w : Workspace) (order : Order) (state : State) (slot : Slot) :
    ∃ content,
      slot.Follows (state.cache.get slot) ((perform w order.call).run state).spawns content ∧
      ((perform w order.call).run state).state.cache.get slot =
        if ((perform w order.call).run state).outcome.isAnswered = true ∧
          slot ∈ order.call.outdates then none else content := by
  have hprepare : slot.Follows (state.cache.get slot) ((prepare w order).run state).spawns
      (((prepare w order).run state).state.cache.get slot) :=
    (keptByQuestions_tracking w).prepare (fun _ _ => trivial) state slot
  have hgiven : ∀ {alteration : Alteration} {spawns : List Spawn} {all : Bool},
      GivesAll alteration.commands spawns all →
        slot.Follows (state.cache.get slot) (((prepare w order).run state).spawns ++ spawns)
          (((prepare w order).run state).state.cache.get slot) := by
    intro alteration spawns all hgives
    refine hprepare.append (.of_others fun spawn hmem hargs => ?_)
    have halters := hgives.alters spawn hmem
    rw [Slot.not_alters hargs] at halters
    cases halters
  refine ⟨((prepare w order).run state).state.cache.get slot, ?_⟩
  cases order_run w order state with
  | unprepared spawns cache outcome =>
    rw [spawns, cache, outcome]
    exact ⟨hprepare, (if_neg (by simp)).symm⟩
  | stopped alteration given _ gives spawns cache outcome =>
    rw [spawns, cache, outcome]
    exact ⟨hgiven gives, (if_neg (by simp)).symm⟩
  | made alteration given settled gives spawns cache outcome =>
    rw [spawns, cache, outcome, Order.outdates_of_alteration? settled, Cache.get_invalidate]
    refine ⟨hgiven gives, ?_⟩
    simp [Outcome.isAnswered]

/-- A slot follows the trace of a call, and then, if the call was answered and outdates the slot, it
is unset. -/
theorem perform_follows (w : Workspace) (call : Call) (state : State) (slot : Slot) :
    ∃ content, slot.Follows (state.cache.get slot) ((perform w call).run state).spawns content ∧
      ((perform w call).run state).state.cache.get slot =
        if ((perform w call).run state).outcome.isAnswered = true ∧ slot ∈ call.outdates
        then none else content := by
  by_cases hnone : call.outdates = []
  · -- Nothing is unset, so that the slot follows the trace to its end.
    have hcall : Keeps tracking (perform w call) := by
      refine ((keptByQuestions_tracking w).mono fun _ _ => trivial).perform
        (fun command hgives =>
          git_keeps_tracking w fun _ => Slot.ne_command_of_alters hgives.not_isReadOnly)
        fun state => ?_
      rw [hnone]
      exact tracking.nil state
    refine ⟨_, hcall state slot, ?_⟩
    rw [hnone, if_neg (by simp)]
  · cases call with
    | createBranch name checkout => exact order_follows w (.create name checkout) state slot
    | checkoutBranch name => exact order_follows w (.checkOut name) state slot
    | commit message files => exact order_follows w (.commit message files) state slot
    | clearCache =>
      have hcleared := state.cache.get_clear slot
      refine ⟨state.cache.get slot, .nil _, hcleared.trans (if_pos ⟨rfl, ?_⟩).symm⟩
      cases slot <;> decide
    | _ => exact absurd rfl hnone

/-! ## Spawns of a call -/

/-- Every spawn of a call is one of a command that only asks, and if it puts a question, then one
that the call asks; or it is one of a command that the call gives to change something. -/
theorem perform_spawns (w : Workspace) (call : Call) (state : State) :
    ∀ spawn ∈ ((perform w call).run state).spawns, ∃ command : Command,
      command.Names spawn.args ∧ (call.Gives command ∨ command.isReadOnly = true ∧
        ∀ question : Question, question.command = command → call.Asks question) := by
  have hkept : KeptByQuestions (.every fun spawn => ∃ command : Command,
      command.Names spawn.args ∧ (call.Gives command ∨ command.isReadOnly = true ∧
        ∀ question : Question, question.command = command → call.Asks question)) w call.Asks :=
    keptByQuestions_every fun command spawn hreadOnly hasked hnames =>
      ⟨command, hnames, .inr ⟨hreadOnly, hasked⟩⟩
  refine hkept.perform (fun command hgives => ?_)
    (fun _ => TraceRelation.every_of_no_spawns rfl) state
  exact git_keeps_every w fun spawn hnames => ⟨command, hnames, .inl hgives⟩

/-- A call that does not ask a question does not start its command. -/
theorem perform_asks {w : Workspace} {call : Call} {question : Question}
    (h : ¬ call.Asks question) (state : State) :
    ∀ spawn ∈ ((perform w call).run state).spawns, spawn.args ≠ question.words := by
  intro spawn hmem hargs
  obtain ⟨command, hnames, hgives | ⟨-, hasked⟩⟩ := perform_spawns w call state spawn hmem
  · obtain rfl := Slot.command_of_names_question (hargs ▸ hnames)
    have hreadOnly := hgives.not_isReadOnly
    cases question <;> cases hreadOnly
  · exact h (hasked question (Slot.command_of_names_question (hargs ▸ hnames)).symm)

/-- A call that does not ask a question leaves its slot as it is, or unsets it. -/
lemma perform_slot_of_not_asks {w : Workspace} {call : Call} {question : Question}
    (h : ¬ call.Asks question) (state : State) :
    ((perform w call).run state).state.cache.get question.slot =
      if ((perform w call).run state).outcome.isAnswered = true ∧ question.slot ∈ call.outdates
      then none else state.cache.get question.slot := by
  obtain ⟨content, hfollows, hafter⟩ := perform_follows w call state question.slot
  rw [hafter]
  have hothers : ∀ spawn ∈ ((perform w call).run state).spawns,
      spawn.args ≠ question.slot.words := by
    rw [Slot.words_question]
    exact perform_asks h state
  rw [hfollows.eq_of_others hothers]

end Session

end WorkTree
