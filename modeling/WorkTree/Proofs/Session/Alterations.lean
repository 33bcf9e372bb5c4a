import Mathlib.Data.List.Forall2
import WorkTree.Proofs.Session.Questions

set_option relaxedAutoImplicit false
set_option autoImplicit false

/-!
# Orders and alterations

Five calls are orders to alter a repository: to make, check out or delete a branch, to commit, or to
push. Each of them first only looks, and settles what the alteration is to be; then it gives the
commands of the alteration, one after the other as long as they succeed; and then, without any way
to fail, it unsets the slots that the alteration outdates, writes to the log and answers. An
alteration is read off its answer: the names, flags and files in it determine the commands.

## Main definitions

* `WorkTree.Order` — the calls that are orders to alter a repository.
* `WorkTree.Alteration` — what is to be done, by the answer that says it was done.
* `WorkTree.Alteration.commands`, `WorkTree.Alteration.outdates` — the commands that make an
  alteration, and the slots that it outdates.
* `WorkTree.Order.alteration?` — the alteration that an order comes to.
* `WorkTree.Session.prepare`, `WorkTree.Session.carryOut` — the two halves of an order.

## Main results

* `WorkTree.Session.perform_order` — an order is its two halves.
* `WorkTree.Session.KeptByLooks.prepare` — preparing only looks.
* `WorkTree.Session.carryOut_run` — an alteration is answered exactly when all its commands succeed.
-/

namespace WorkTree

/-! ## Alterations -/

/-- What is to be done to a repository, by the answer that says it was done. -/
inductive Alteration where
  | create (info : BranchCreated)
  | checkOut (info : BranchCheckedOut)
  | delete (info : BranchDeleted)
  | commit (info : CommitInfo)
  | push (info : PushInfo)
  deriving DecidableEq, Repr

namespace Alteration

/-- The answer that says that an alteration was made. -/
def answer : Alteration → Answer
  | .create info => .created info
  | .checkOut info => .checkedOut info
  | .delete info => .deleted info
  | .commit info => .committed info
  | .push info => .pushed info

/-- The commands that make an alteration. -/
def commands : Alteration → List Command
  | .create info =>
    [if info.checkedOut.holds then .createAndCheckout info.name else .createBranch info.name]
  | .checkOut info => [.checkout info.name]
  | .delete info => [.deleteBranch info.name info.force.holds]
  | .commit info => [info.scope.stageCommand, info.scope.commitCommand info.message]
  | .push info => [.push info.remote info.branch]

/-- The sort of an alteration. -/
def mutation : Alteration → Mutation
  | .create info => if info.checkedOut.holds then .createBranchCheckout else .createBranch
  | .checkOut _ => .checkoutBranch
  | .delete _ => .deleteBranch
  | .commit _ => .commitChanges
  | .push _ => .pushChanges

/-- The slots that an alteration outdates. -/
def outdates (alteration : Alteration) : List Slot :=
  alteration.mutation.invalidates

/-- What the log says of an alteration that was made. -/
def notice : Alteration → String
  | .create info =>
    "Created branch " ++ info.name.asText ++ if info.checkedOut.holds then " (checked out)" else ""
  | .checkOut info => "Checked out branch " ++ info.name.asText
  | .delete info =>
    "Deleted branch " ++ info.name.asText ++ if info.force.holds then " (forced)" else ""
  | .commit info => "Committed " ++ info.scope.text
  | .push info => "Pushed " ++ info.branch.asText ++ " to " ++ info.remote.asText

/-- No command of an alteration only asks. -/
lemma not_isReadOnly {alteration : Alteration} {command : Command}
    (h : command ∈ alteration.commands) : command.isReadOnly = false := by
  cases alteration with
  | create info =>
    obtain rfl := List.mem_singleton.1 h
    split <;> rfl
  | commit info =>
    rcases info with ⟨message, scope⟩
    simp only [commands, List.mem_cons, List.not_mem_nil, or_false] at h
    cases scope <;> rcases h with rfl | rfl <;> rfl
  | _ => obtain rfl := List.mem_singleton.1 h; rfl

end Alteration

/-! ## Orders -/

/-- An order to alter a repository, with the arguments that a caller gives. -/
inductive Order where
  | create (name : Value) (checkout : Flag)
  | checkOut (name : Value)
  | delete (name : Value) (force : Flag)
  | commit (message files : Value)
  | push (remote branch : Value)

namespace Order

/-- The call that an order is. -/
def call : Order → Call
  | .create name checkout => .createBranch name checkout
  | .checkOut name => .checkoutBranch name
  | .delete name force => .deleteBranch name force
  | .commit message files => .commit message files
  | .push remote branch => .push remote branch

/-- The alteration that an order comes to, when this is what is known of the current branch. There
is none when the arguments of a commit are refused, or when the branch to push is not known. -/
def alteration? (order : Order) (current : Option Value) : Option Alteration :=
  match order with
  | .create name checkout => some (.create ⟨name, checkout⟩)
  | .checkOut name => some (.checkOut ⟨name⟩)
  | .delete name force => some (.delete ⟨name, force⟩)
  | .commit message files =>
    match Session.messageText message, CommitScope.ofFiles files with
    | .ok message, .ok scope => some (.commit ⟨message, scope⟩)
    | _, _ => none
  | .push remote .null => current.map fun branch => .push ⟨remote, .text branch.asText⟩
  | .push remote branch => some (.push ⟨remote, branch⟩)

/-- An order to commit comes to a commit. -/
lemma commit_of_alteration? {message files : Value} {current : Option Value}
    {alteration : Alteration}
    (h : (commit message files).alteration? current = some alteration) :
    ∃ info, alteration = .commit info := by
  simp only [alteration?] at h
  split at h
  · exact ⟨_, (Option.some.inj h).symm⟩
  · cases h

/-- An order to push comes to a push to the remote that it names. -/
lemma push_of_alteration? {remote branch : Value} {current : Option Value}
    {alteration : Alteration} (h : (push remote branch).alteration? current = some alteration) :
    ∃ named, alteration = .push ⟨remote, named⟩ := by
  cases branch with
  | null =>
    obtain ⟨value, -, rfl⟩ := Option.map_eq_some_iff.1 h
    exact ⟨_, rfl⟩
  | _ => exact ⟨_, (Option.some.inj h).symm⟩

end Order

namespace Session

open WorkTree.Action (Keeps)

/-! ## The two halves of an order -/

/-- What is done for an order before anything is altered: the checks and questions, up to the
alteration that is to be made. -/
def prepare (w : Workspace) : Order → Session Alteration
  | .create name checkout => do
    requireRepository w
    let validation := BranchName.validateValue name
    Action.ensure validation.valid (.nameInvalid name validation.errors)
    Action.ensure (!(← branchExists w name)) (.branchExists name)
    return .create ⟨name, checkout⟩
  | .checkOut name => do
    requireRepository w
    requireBranch w name
    return .checkOut ⟨name⟩
  | .delete name force => do
    requireRepository w
    Action.ensure (Value.ofText? (← currentBranchName? w) != name) (.branchCheckedOut name)
    requireBranch w name
    return .delete ⟨name, force⟩
  | .commit message files => do
    let message ← Action.orAbort (messageText message)
    requireRepository w
    let scope ← Action.orAbort (CommitScope.ofFiles files)
    return .commit ⟨message, scope⟩
  | .push remote branch => do
    requireRepository w
    let branch ← branchOrCurrent w branch
    return .push ⟨remote, branch⟩

/-- Gives commands one after the other, as long as they succeed. -/
def giveAll (w : Workspace) : List Command → Session Unit
  | [] => pure ()
  | command :: rest => do
    let _ ← gitChecked w command
    giveAll w rest

/-- Closes an alteration that was made. -/
def settle (alteration : Alteration) : Session Answer := do
  invalidate alteration.mutation
  log .info alteration.notice
  return alteration.answer

/-- Gives the commands of an alteration and closes it. -/
def carryOut (w : Workspace) (alteration : Alteration) : Session Answer := do
  giveAll w alteration.commands
  settle alteration

/-- An order is prepared and then carried out. -/
lemma perform_order (w : Workspace) (order : Order) :
    perform w order.call = prepare w order >>= carryOut w := by
  cases order with
  | create name checkout =>
    simp only [Order.call, perform, createBranch, prepare, carryOut, giveAll, settle,
      Alteration.commands, map_bind, map_pure, bind_assoc, pure_bind]
    rfl
  | checkOut name =>
    simp only [Order.call, perform, checkoutBranch, prepare, carryOut, giveAll, settle,
      Alteration.commands, map_bind, map_pure, bind_assoc, pure_bind]
    rfl
  | delete name force =>
    simp only [Order.call, perform, deleteBranch, prepare, carryOut, giveAll, settle,
      Alteration.commands, map_bind, map_pure, bind_assoc, pure_bind]
    rfl
  | commit message files =>
    simp only [Order.call, perform, commit, prepare, carryOut, giveAll, settle,
      Alteration.commands, map_bind, map_pure, bind_assoc, pure_bind]
    rfl
  | push remote branch =>
    simp only [Order.call, perform, push, prepare, carryOut, giveAll, settle,
      Alteration.commands, map_bind, map_pure, bind_assoc, pure_bind]
    rfl

/-! ## Preparing -/

/-- Preparing an order keeps what the gate, the look for a branch and, if the order asks for the
current branch, the reading of that question keep. -/
lemma prepare_keeps {R : TraceRelation State} {w : Workspace} {order : Order}
    (hgate : Keeps R (requireRepository w)) (hshow : ∀ name, Keeps R (git w (.showBranch name)))
    (hread : order.call.Asks .branch → Keeps R (Question.branch.read w)) :
    Keeps R (prepare w order) := by
  cases order with
  | create name checkout =>
    refine hgate.bind fun _ => ?_
    refine (Keeps.ensure _ _).bind fun _ => ?_
    refine (branchExists_keeps (hshow _)).bind fun found => ?_
    exact (Keeps.ensure _ _).bind fun _ => .pure _
  | checkOut name =>
    refine hgate.bind fun _ => ?_
    exact (requireBranch_keeps (hshow _)).bind fun _ => .pure _
  | delete name force =>
    refine hgate.bind fun _ => ?_
    refine (currentBranchName?_keeps (hread rfl)).bind fun current => ?_
    refine (Keeps.ensure _ _).bind fun _ => ?_
    exact (requireBranch_keeps (hshow _)).bind fun _ => .pure _
  | commit message files =>
    refine (Keeps.orAbort _).bind fun message => ?_
    refine hgate.bind fun _ => ?_
    exact (Keeps.orAbort _).bind fun scope => .pure _
  | push remote branch =>
    refine hgate.bind fun _ => ?_
    refine Keeps.bind ?_ fun branch => .pure _
    cases branch with
    | null =>
      have hcurrent : Keeps R (currentBranch w) :=
        Question.currentBranch_eq w ▸ (hread ⟨rfl, rfl⟩).map _
      exact hcurrent.bind fun info => .pure _
    | _ => exact .pure _

/-- Preparing an order only looks. -/
lemma KeptByLooks.prepare {R : TraceRelation State} {w : Workspace}
    {asked : Question → Prop} (h : KeptByLooks R w asked) {order : Order}
    (hasked : ∀ question, order.call.Asks question → asked question) :
    Keeps R (prepare w order) :=
  prepare_keeps h.gate h.showBranch fun hbranch => h.read _ (hasked _ hbranch)

/-- The current branch that is answered is the one that its slot then holds. -/
lemma currentBranch_answered {w : Workspace} {state : State} {info : BranchInfo}
    (h : ((currentBranch w).run state).outcome = .answered info) :
    ∃ value, ((currentBranch w).run state).state.cache.get .branch = some value ∧
      value.asText = info.branch := by
  rw [Question.currentBranch_eq, Action.run_map] at h ⊢
  cases houtcome : ((Question.branch.read w).run state).outcome with
  | answered found =>
    rw [houtcome] at h
    obtain rfl := Outcome.answered.inj h
    exact (read_answered houtcome).2
  | failed cause => rw [houtcome] at h; cases h
  | aborted fault => rw [houtcome] at h; cases h

/-- What an order is prepared to is what it comes to, with the current branch that is then known. -/
lemma prepare_answered {w : Workspace} {order : Order} {state : State} {alteration : Alteration}
    (h : ((prepare w order).run state).outcome = .answered alteration) :
    order.alteration? (((prepare w order).run state).state.cache.get .branch) =
      some alteration := by
  cases order with
  | create name checkout =>
    obtain ⟨_, -, h⟩ := Action.answered_bind_iff.1 h
    obtain ⟨_, -, h⟩ := Action.answered_bind_iff.1 h
    obtain ⟨_, -, h⟩ := Action.answered_bind_iff.1 h
    obtain ⟨_, -, h⟩ := Action.answered_bind_iff.1 h
    exact congrArg some (Outcome.answered.inj h)
  | checkOut name =>
    obtain ⟨_, -, h⟩ := Action.answered_bind_iff.1 h
    obtain ⟨_, -, h⟩ := Action.answered_bind_iff.1 h
    exact congrArg some (Outcome.answered.inj h)
  | delete name force =>
    obtain ⟨_, -, h⟩ := Action.answered_bind_iff.1 h
    obtain ⟨_, -, h⟩ := Action.answered_bind_iff.1 h
    obtain ⟨_, -, h⟩ := Action.answered_bind_iff.1 h
    obtain ⟨_, -, h⟩ := Action.answered_bind_iff.1 h
    exact congrArg some (Outcome.answered.inj h)
  | commit message files =>
    obtain ⟨text, htext, h⟩ := Action.answered_bind_iff.1 h
    obtain ⟨_, -, h⟩ := Action.answered_bind_iff.1 h
    obtain ⟨scope, hscope, h⟩ := Action.answered_bind_iff.1 h
    rw [Action.answered_orAbort_iff] at htext hscope
    simp only [Order.alteration?, htext, hscope]
    exact congrArg some (Outcome.answered.inj h)
  | push remote branch =>
    obtain ⟨_, hgate, h⟩ := Action.answered_bind_iff.1 h
    obtain ⟨named, hnamed, h⟩ := Action.answered_bind_iff.1 h
    obtain rfl : .push ⟨remote, named⟩ = alteration := Outcome.answered.inj h
    rw [prepare, Action.state_bind_of_answered hgate, Action.state_bind_of_answered hnamed]
    cases branch with
    | null =>
      obtain ⟨info, hinfo, hnamed⟩ := Action.answered_bind_iff.1 hnamed
      obtain rfl := Outcome.answered.inj hnamed
      obtain ⟨value, hslot, hvalue⟩ := currentBranch_answered hinfo
      rw [branchOrCurrent, Action.state_bind_of_answered hinfo]
      simp [Order.alteration?, hslot, hvalue]
    | _ =>
      obtain rfl := Outcome.answered.inj hnamed
      rfl

/-! ## Carrying out -/

/-- A spawn of a command that succeeded. -/
def Made (command : Command) (spawn : Spawn) : Prop :=
  command.Names spawn.args ∧ spawn.reply.isSuccess = true

/-- How giving some commands ends: with the spawns that were made, and whether all of them
succeeded. -/
inductive GivesAll : List Command → List Spawn → Bool → Prop where
  | done : GivesAll [] [] true
  | next {command : Command} {rest : List Command} {spawn : Spawn} {spawns : List Spawn}
      {all : Bool} (made : Made command spawn) (hrest : GivesAll rest spawns all) :
      GivesAll (command :: rest) (spawn :: spawns) all
  | never (command : Command) (rest : List Command) : GivesAll (command :: rest) [] false
  | refused {command : Command} {spawn : Spawn} (rest : List Command)
      (args : command.Names spawn.args) (reply : spawn.reply.isSuccess = false) :
      GivesAll (command :: rest) [spawn] false

namespace GivesAll

variable {commands : List Command} {spawns : List Spawn} {all : Bool}

/-- All commands succeed exactly when each of them was given and succeeded, in order. -/
lemma all_iff (h : GivesAll commands spawns all) :
    all = true ↔ List.Forall₂ Made commands spawns := by
  induction h with
  | done => simp
  | next made _ ih => simp [ih, made]
  | never command rest => simp
  | refused rest args reply => simp [Made, reply]

/-- Every spawn is one of a command that was to be given. -/
lemma names (h : GivesAll commands spawns all) :
    ∀ spawn ∈ spawns, ∃ command ∈ commands, command.Names spawn.args := by
  induction h with
  | done => simp
  | never command rest => simp
  | @next command rest spawn spawns all made _ ih =>
    rintro spawn' hmem
    rcases List.mem_cons.1 hmem with rfl | hmem
    · exact ⟨command, List.mem_cons_self, made.1⟩
    · obtain ⟨command', hmem', hnames⟩ := ih spawn' hmem
      exact ⟨command', List.mem_cons_of_mem _ hmem', hnames⟩
  | @refused command spawn rest args reply =>
    rintro spawn' hmem
    obtain rfl := List.mem_singleton.1 hmem
    exact ⟨command, List.mem_cons_self, args⟩

/-- The spawns of the commands of an alteration are spawns that may change something. -/
lemma alters {alteration : Alteration} (h : GivesAll alteration.commands spawns all) :
    ∀ spawn ∈ spawns, spawn.alters = true := by
  intro spawn hmem
  obtain ⟨command, hcommand, hnames⟩ := h.names spawn hmem
  rw [hnames.alters, Alteration.not_isReadOnly hcommand, Bool.not_false]

/-- When not all commands succeed, those that do are not the last one. -/
lemma made_of_not_all (h : GivesAll commands spawns false) :
    ∀ spawn ∈ spawns, spawn.reply.isSuccess = true →
      ∃ command ∈ commands.dropLast, command.Names spawn.args := by
  generalize hall : false = all at h
  induction h with
  | done => cases hall
  | never command rest => simp
  | @next command rest spawn spawns all made hrest ih =>
    intro spawn' hmem hreply
    cases rest with
    | nil => cases hrest; cases hall
    | cons command' rest =>
      rw [List.dropLast_cons_cons]
      rcases List.mem_cons.1 hmem with rfl | hmem
      · exact ⟨command, List.mem_cons_self, made.1⟩
      · obtain ⟨command'', hmem', hnames⟩ := ih hall spawn' hmem hreply
        exact ⟨command'', List.mem_cons_of_mem _ hmem', hnames⟩
  | refused rest args reply =>
    intro spawn' hmem hreply
    obtain rfl := List.mem_singleton.1 hmem
    rw [reply] at hreply
    cases hreply

end GivesAll

/-- Giving commands one after the other starts them in order, up to the first one that does not
succeed, and is answered when all succeed. The cache has no part in it. -/
lemma giveAll_run (w : Workspace) (commands : List Command) (state : State) :
    GivesAll commands ((giveAll w commands).run state).spawns
        ((giveAll w commands).run state).outcome.isAnswered ∧
      ((giveAll w commands).run state).state.cache = state.cache := by
  induction commands generalizing state with
  | nil => exact ⟨.done, rfl⟩
  | cons command rest ih =>
    rw [giveAll]
    have hcarries := gitChecked_run w command state
    cases hanswered : ((gitChecked w command).run state).outcome.isAnswered with
    | false =>
      obtain ⟨houtcome, hstate, hevents⟩ :=
        Action.run_bind_of_not_answered hanswered fun _ => giveAll w rest
      rw [Run.spawns, houtcome, hstate, hevents]
      refine ⟨?_, gitChecked_cache w command state⟩
      cases hcarries with
      | never spawns _ =>
        rw [Run.spawns] at spawns
        exact spawns ▸ .never command rest
      | refused spawn spawns args reply _ =>
        rw [Run.spawns] at spawns
        exact spawns ▸ .refused rest args reply
      | done spawn completion _ _ _ outcome =>
        rw [outcome] at hanswered
        cases hanswered
    | true =>
      obtain ⟨output, houtput⟩ := Outcome.isAnswered_iff.1 hanswered
      rw [Action.spawns_bind_of_answered houtput, Action.run_bind_of_answered houtput]
      obtain ⟨hgives, hcache⟩ := ih ((gitChecked w command).run state).state
      refine ⟨?_, hcache.trans (gitChecked_cache w command state)⟩
      cases hcarries with
      | never _ outcome => rw [outcome] at hanswered; cases hanswered
      | refused _ _ _ _ outcome => rw [outcome] at hanswered; cases hanswered
      | done spawn completion spawns args reply _ =>
        rw [spawns]
        exact .next ⟨args, by rw [Reply.isSuccess, reply, Option.isSome_some]⟩ hgives

/-- An alteration that was made is always answered; the slots that it outdates are unset, and
nothing is started. -/
lemma settle_run (alteration : Alteration) (state : State) :
    ((settle alteration).run state).outcome = .answered alteration.answer ∧
      ((settle alteration).run state).state =
        { state with cache := state.cache.invalidate alteration.outdates } ∧
      ((settle alteration).run state).spawns = [] := by
  unfold settle Session.invalidate Action.onlyIf
  rw [Alteration.outdates]
  cases alteration.mutation <;> exact ⟨rfl, rfl, rfl⟩

/-! ## Runs of orders -/

/-- How an order ends: its preparation comes to nothing; or it settles an alteration, whose commands
are given but do not all succeed; or they do, and then the alteration is answered and the slots that
it outdates are unset. -/
inductive Ends (w : Workspace) (order : Order) (state : State) (r : Run State Answer) : Prop where
  | unprepared (spawns : r.spawns = ((prepare w order).run state).spawns)
      (cache : r.state.cache = ((prepare w order).run state).state.cache)
      (outcome : r.outcome.isAnswered = false)
  | stopped (alteration : Alteration) (given : List Spawn)
      (settled : order.alteration? (((prepare w order).run state).state.cache.get .branch) =
        some alteration)
      (gives : GivesAll alteration.commands given false)
      (spawns : r.spawns = ((prepare w order).run state).spawns ++ given)
      (cache : r.state.cache = ((prepare w order).run state).state.cache)
      (outcome : r.outcome.isAnswered = false)
  | made (alteration : Alteration) (given : List Spawn)
      (settled : order.alteration? (((prepare w order).run state).state.cache.get .branch) =
        some alteration)
      (gives : GivesAll alteration.commands given true)
      (spawns : r.spawns = ((prepare w order).run state).spawns ++ given)
      (cache : r.state.cache =
        ((prepare w order).run state).state.cache.invalidate alteration.outdates)
      (outcome : r.outcome = .answered alteration.answer)

/-- An alteration is answered exactly when all its commands succeed. -/
lemma carryOut_run (w : Workspace) (alteration : Alteration) (state : State) :
    (((carryOut w alteration).run state).outcome.isAnswered = false ∧
        ((carryOut w alteration).run state).state.cache = state.cache ∧
        GivesAll alteration.commands ((carryOut w alteration).run state).spawns false) ∨
      (((carryOut w alteration).run state).outcome = .answered alteration.answer ∧
        ((carryOut w alteration).run state).state.cache =
          state.cache.invalidate alteration.outdates ∧
        GivesAll alteration.commands ((carryOut w alteration).run state).spawns true) := by
  obtain ⟨hgives, hcache⟩ := giveAll_run w alteration.commands state
  rw [carryOut]
  cases hanswered : ((giveAll w alteration.commands).run state).outcome.isAnswered with
  | false =>
    obtain ⟨houtcome, hstate, hevents⟩ :=
      Action.run_bind_of_not_answered hanswered fun _ => settle alteration
    rw [hanswered, Run.spawns] at hgives
    refine .inl ⟨houtcome, hstate ▸ hcache, ?_⟩
    rw [Run.spawns, hevents]
    exact hgives
  | true =>
    obtain ⟨⟨⟩, hvalue⟩ := Outcome.isAnswered_iff.1 hanswered
    obtain ⟨houtcome, hstate, hspawns⟩ :=
      settle_run alteration ((giveAll w alteration.commands).run state).state
    refine .inr ⟨?_, ?_, ?_⟩
    · rw [Action.run_bind_of_answered hvalue]
      exact houtcome
    · rw [Action.state_bind_of_answered hvalue, hstate, ← hcache]
    · rw [Action.spawns_bind_of_answered hvalue, hspawns, List.append_nil]
      exact hanswered ▸ hgives

/-- An order ends in one of three ways.

**Proof sketch.** An order is its preparation and then the carrying out (`perform_order`). What it
is prepared to is what it comes to (`prepare_answered`), and that is answered exactly when all its
commands succeed (`carryOut_run`). -/
lemma order_run (w : Workspace) (order : Order) (state : State) :
    Ends w order state ((perform w order.call).run state) := by
  rw [perform_order]
  cases hanswered : ((prepare w order).run state).outcome.isAnswered with
  | false =>
    obtain ⟨houtcome, hstate, hevents⟩ := Action.run_bind_of_not_answered hanswered (carryOut w)
    refine .unprepared ?_ (hstate ▸ rfl) houtcome
    rw [Run.spawns, hevents]
    rfl
  | true =>
    obtain ⟨alteration, hvalue⟩ := Outcome.isAnswered_iff.1 hanswered
    have hspawns := Action.spawns_bind_of_answered hvalue (carryOut w)
    have hstate := Action.state_bind_of_answered hvalue (carryOut w)
    have houtcome := congrArg Run.outcome (Action.run_bind_of_answered hvalue (carryOut w))
    rcases carryOut_run w alteration ((prepare w order).run state).state with
      ⟨hended, hcache, hgives⟩ | ⟨hended, hcache, hgives⟩
    · exact .stopped alteration _ (prepare_answered hvalue) hgives hspawns
        (hstate ▸ hcache) (houtcome ▸ hended)
    · exact .made alteration _ (prepare_answered hvalue) hgives hspawns
        (hstate ▸ hcache) (houtcome.trans hended)

/-- Preparing an order starts nothing that may change something. -/
lemma prepare_not_alters (w : Workspace) (order : Order) (state : State) :
    ∀ spawn ∈ ((prepare w order).run state).spawns, spawn.alters = false :=
  (keptByQuestions_not_alters w).prepare (fun _ _ => trivial) state

/-- When an order is not answered, only commands of its alteration before the last one can have
succeeded. -/
lemma made_of_not_answered {w : Workspace} (order : Order) {state : State}
    (h : ((perform w order.call).run state).outcome.isAnswered = false) {spawn : Spawn}
    (hmem : spawn ∈ ((perform w order.call).run state).spawns) (halters : spawn.alters = true)
    (hreply : spawn.reply.isSuccess = true) :
    ∃ (current : Option Value) (alteration : Alteration),
      order.alteration? current = some alteration ∧
        ∃ command ∈ alteration.commands.dropLast, command.Names spawn.args := by
  have hprepare := prepare_not_alters w order state
  cases order_run w order state with
  | unprepared spawns _ _ =>
    rw [hprepare spawn (spawns ▸ hmem)] at halters
    cases halters
  | stopped alteration given settled gives spawns _ _ =>
    rw [spawns] at hmem
    rcases List.mem_append.1 hmem with hmem | hmem
    · rw [hprepare spawn hmem] at halters
      cases halters
    · exact ⟨_, alteration, settled, gives.made_of_not_all spawn hmem hreply⟩
  | made alteration _ _ _ _ _ outcome =>
    rw [outcome] at h
    cases h

end Session

end WorkTree
