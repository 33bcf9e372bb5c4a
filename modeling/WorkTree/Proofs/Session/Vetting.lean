import WorkTree.Proofs.BranchName.Joined
import WorkTree.Proofs.Session.CheckedOut
import WorkTree.Proofs.Session.Grounds

set_option relaxedAutoImplicit false
set_option autoImplicit false

/-!
# Names are vetted before they are used

Four calls do something with a branch that the caller names. None of them gives git the name in a
command that may change something, or lists what is merged into the branch, before it has looked
whether the branch exists: a new branch must not, and any other branch has to. The name of a new
branch is judged even before that, so that git can take it neither for an option nor for several
words. A name that is not valid, and the current branch when it is to be deleted, are turned down
before there is a look.

## Main definitions

* `WorkTree.Spawn.Acts` — a spawn may change something, or lists merged branches.
* `WorkTree.Spawn.Looked` — a spawn by which git says whether there is a branch.
* `WorkTree.BranchName.IsPlain` — names that are no options and hold no blanks or ASCII controls.
* `WorkTree.Session.Vets` — what has happened in a call before it acts.
* `WorkTree.Session.RefusesName`, `WorkTree.Session.RefusesCurrent` — how a name that is not valid,
  and the current branch, are turned down.

## Main results

* `WorkTree.Session.branch_operations_vetted` — the four calls act only on vetted names.
-/

namespace WorkTree

/-! ## Acts and looks -/

/-- A spawn acts when it may change something or lists the branches that are merged into one. -/
def Spawn.Acts (spawn : Spawn) : Prop :=
  spawn.alters = true ∨ spawn.args.head? = some "for-each-ref"

/-- By a spawn git says whether there is a local branch of a name: it looked for that branch and
completed, with the exit code zero exactly if it was found. -/
structure Spawn.Looked (spawn : Spawn) (name : Value) (found : Bool) : Prop where
  args : spawn.args = Command.lookWords name
  completed : ∃ completion, spawn.reply.completion? = some completion ∧ completion.ok = found

/-- A command that only asks and is not a listing does not act. -/
lemma Spawn.not_acts_of_names {spawn : Spawn} {command : Command}
    (hnames : command.Names spawn.args) (h : command.isReadOnly = true)
    (hverb : command.verb ≠ "for-each-ref") : ¬ spawn.Acts := by
  rintro (halters | hlists)
  · rw [hnames.alters, h] at halters
    cases halters
  · exact hverb (Option.some.inj (hnames.head?.symm.trans hlists))

/-- Whether a call does something with a branch that the caller names. -/
def Call.namesBranch : Call → Bool
  | .createBranch _ _ | .checkoutBranch _ | .deleteBranch _ _ | .cleanup _ _ => true
  | _ => false

/-- The branch that an order looks for, and whether it has to be there. -/
def Order.look? : Order → Option (Value × Bool)
  | .create name _ => some (name, false)
  | .checkOut name | .delete name _ => some (name, true)
  | .commit _ _ | .push _ _ => none

namespace BranchName

/-- Names that git can take neither for an option nor for several words: they are not empty, do not
begin with a hyphen, and hold no blank and no ASCII control. -/
structure IsPlain (name : String) : Prop where
  ne_empty : name ≠ ""
  head_ne : name.toList.head? ≠ some '-'
  unblanked : ∀ c ∈ name.toList, Text.isBlank c = false
  uncontrolled : ∀ c ∈ name.toList, 0x20 < c.toNat ∧ c.toNat ≠ 0x7F

/-- Accepted names are plain. -/
lemma IsAccepted.isPlain {name : String} (h : IsAccepted name) : IsPlain name := by
  have husable := (isAccepted_iff.1 h).2.isUsable
  refine ⟨?_, husable.head_ne, h.unblanked, fun c hc => ?_⟩
  · rintro rfl
    exact husable.ne_nil rfl
  · obtain ⟨hcontrol, hdelete, -⟩ := husable.allowed c hc
    exact ⟨hcontrol, hdelete⟩

/-- For a text, the value in the place of a name is valid when the name is accepted. -/
lemma validateValue_valid_iff {name : String} :
    (validateValue (.text name)).valid = true ↔ IsAccepted name := by
  rw [validateValue_text]
  exact Iff.rfl

end BranchName

namespace Session

open WorkTree.Action (Keeps)

/-! ## Looks for a branch -/

/-- Looking for a branch is answered by a look. -/
lemma branchExists_answered {w : Workspace} {name : Value} {state : State} {found : Bool}
    (h : ((branchExists w name).run state).outcome = .answered found) :
    ∃ look ∈ ((branchExists w name).run state).spawns, look.Looked name found := by
  obtain ⟨completion, hgit, hok⟩ := Action.answered_bind_iff.1 h
  obtain ⟨look, hspawns, hnames, hreply⟩ := git_answered hgit
  refine ⟨look, ?_, Command.names_showBranch_iff.1 hnames, completion, hreply,
    Outcome.answered.inj hok⟩
  rw [branchExists, Action.spawns_bind_of_answered hgit, hspawns]
  exact List.mem_cons_self

/-- A branch that is required is there by a look. -/
lemma requireBranch_answered {w : Workspace} {name : Value} {state : State}
    (h : ((requireBranch w name).run state).outcome = .answered ()) :
    ∃ look ∈ ((requireBranch w name).run state).spawns, look.Looked name true := by
  obtain ⟨found, hfound, hensure⟩ := Action.answered_bind_iff.1 h
  have hyes : found = true := by
    cases found with
    | true => rfl
    | false => cases hensure
  subst hyes
  obtain ⟨look, hmem, hlooked⟩ := branchExists_answered hfound
  exact ⟨look, Action.mem_spawns_bind_iff.2 (.inl hmem), hlooked⟩

/-- Passing the gate does not act. -/
lemma requireRepository_keeps_idle (w : Workspace) :
    Keeps (.every fun spawn => ¬ spawn.Acts) (requireRepository w) := by
  have hdetect : Keeps (.every fun spawn => ¬ spawn.Acts) (detectRepository w) := by
    refine detectRepository_keeps (fun _ _ => TraceRelation.every_of_no_spawns rfl)
      (fun _ _ => TraceRelation.every_of_no_spawns rfl) (git_keeps_every w fun spawn hnames => ?_)
    exact Spawn.not_acts_of_names hnames rfl (by decide)
  exact hdetect.bind fun _ => .ensure _ _

/-- The command that looks for a branch does not act. -/
lemma showBranch_keeps_idle (w : Workspace) (name : String) :
    Keeps (.every fun spawn => ¬ spawn.Acts) (git w (.showBranch name)) := by
  refine git_keeps_every w fun spawn hnames => ?_
  exact Spawn.not_acts_of_names hnames rfl (by simp [Command.verb])

/-- Preparing an order does not act. -/
lemma prepare_keeps_idle (w : Workspace) (order : Order) :
    Keeps (.every fun spawn => ¬ spawn.Acts) (prepare w order) := by
  refine prepare_keeps (requireRepository_keeps_idle w) (fun _ => showBranch_keeps_idle w _)
    fun _ => ?_
  refine read_keeps (requireRepository_keeps_idle w)
    (fun _ _ => TraceRelation.every_of_no_spawns rfl) (git_keeps_every w fun spawn hnames => ?_)
  exact Spawn.not_acts_of_names hnames rfl (by decide)

/-! ## What comes before an act -/

/-- What has happened in a call before it acts: git has said of the branch that the call is about
that it is not there, if the call is to make it, and else that it is there; and a new name is
accepted. Except when it deletes merged branches, the call acts by one command with that name. -/
inductive Vets (before : List Spawn) (spawn : Spawn) : Call → Prop where
  | create {name : String} {checkout : Flag}
      (args : spawn.args =
        if checkout.holds then ["checkout", "-b", name] else ["branch", name])
      (valid : (BranchName.validateValue (.text name)).valid = true)
      (plain : BranchName.IsPlain name)
      (absent : ∃ look ∈ before, look.Looked (.text name) false) :
      Vets before spawn (.createBranch (.text name) checkout)
  | checkOut {name : String} (args : spawn.args = ["checkout", name, "--"])
      (present : ∃ look ∈ before, look.Looked (.text name) true) :
      Vets before spawn (.checkoutBranch (.text name))
  | delete {name : String} {force : Flag}
      (args : spawn.args = ["branch", if force.holds then "-D" else "-d", name])
      (present : ∃ look ∈ before, look.Looked (.text name) true) :
      Vets before spawn (.deleteBranch (.text name) force)
  | cleanup {target : Value} {dryRun : Bool}
      (present : ∃ look ∈ before, look.Looked target true) :
      Vets before spawn (.cleanup target dryRun)

/-- An order was prepared behind the look that it needs.

**Proof sketch.** The look is the last thing that is done before the alteration is settled, and its
answer is the one that lets the order go on. -/
lemma prepare_looked {w : Workspace} {order : Order} {state : State} {alteration : Alteration}
    (h : ((prepare w order).run state).outcome = .answered alteration) {name : Value} {found : Bool}
    (hlook : order.look? = some (name, found)) :
    ∃ look ∈ ((prepare w order).run state).spawns, look.Looked name found := by
  cases order with
  | create name' checkout =>
    obtain ⟨rfl, rfl⟩ := Prod.mk.inj (Option.some.inj hlook)
    obtain ⟨⟨⟩, hgate, hchecked⟩ := Action.answered_bind_iff.1 h
    obtain ⟨⟨⟩, hvalid, hlooked⟩ := Action.answered_bind_iff.1 hchecked
    obtain ⟨there, hthere, hsettled⟩ := Action.answered_bind_iff.1 hlooked
    have hno : there = false := by
      cases there with
      | false => rfl
      | true => cases hsettled
    subst hno
    obtain ⟨look, hmem, hlook⟩ := branchExists_answered hthere
    refine ⟨look, Action.mem_spawns_bind_iff.2 (.inr ⟨(), hgate, ?_⟩), hlook⟩
    refine Action.mem_spawns_bind_iff.2 (.inr ⟨(), hvalid, ?_⟩)
    exact Action.mem_spawns_bind_iff.2 (.inl hmem)
  | checkOut name' =>
    obtain ⟨rfl, rfl⟩ := Prod.mk.inj (Option.some.inj hlook)
    obtain ⟨⟨⟩, hgate, hrequired⟩ := Action.answered_bind_iff.1 h
    obtain ⟨⟨⟩, hthere, -⟩ := Action.answered_bind_iff.1 hrequired
    obtain ⟨look, hmem, hlook⟩ := requireBranch_answered hthere
    refine ⟨look, Action.mem_spawns_bind_iff.2 (.inr ⟨(), hgate, ?_⟩), hlook⟩
    exact Action.mem_spawns_bind_iff.2 (.inl hmem)
  | delete name' force =>
    obtain ⟨rfl, rfl⟩ := Prod.mk.inj (Option.some.inj hlook)
    obtain ⟨⟨⟩, hgate, hasked⟩ := Action.answered_bind_iff.1 h
    obtain ⟨current, hcurrent, hchecked⟩ := Action.answered_bind_iff.1 hasked
    obtain ⟨⟨⟩, hother, hrequired⟩ := Action.answered_bind_iff.1 hchecked
    obtain ⟨⟨⟩, hthere, -⟩ := Action.answered_bind_iff.1 hrequired
    obtain ⟨look, hmem, hlook⟩ := requireBranch_answered hthere
    refine ⟨look, Action.mem_spawns_bind_iff.2 (.inr ⟨(), hgate, ?_⟩), hlook⟩
    refine Action.mem_spawns_bind_iff.2 (.inr ⟨current, hcurrent, ?_⟩)
    refine Action.mem_spawns_bind_iff.2 (.inr ⟨(), hother, ?_⟩)
    exact Action.mem_spawns_bind_iff.2 (.inl hmem)
  | commit message files => cases hlook
  | push remote branch => cases hlook

/-- An order acts only when it was prepared, by one of the commands of its alteration and behind the
look that it needs. -/
lemma order_acts {w : Workspace} (order : Order) {state : State} {before after : List Spawn}
    {spawn : Spawn}
    (h : ((perform w order.call).run state).spawns = before ++ spawn :: after)
    (hacts : spawn.Acts) :
    ∃ alteration, ((prepare w order).run state).outcome = .answered alteration ∧
      (∃ command ∈ alteration.commands, command.Names spawn.args) ∧
        ∀ name found, order.look? = some (name, found) →
          ∃ look ∈ before, look.Looked name found := by
  rw [perform_order] at h
  obtain ⟨alteration, between, hprepared, rfl, hcarried⟩ :=
    Action.behind_of_not_mem h fun hmem => prepare_keeps_idle w order state spawn hmem hacts
  refine ⟨alteration, hprepared, ?_, fun name found hlook => ?_⟩
  · have hmem : spawn ∈
        ((carryOut w alteration).run ((prepare w order).run state).state).spawns := by
      simp [hcarried]
    rcases carryOut_run w alteration ((prepare w order).run state).state with
      ⟨-, -, hgives⟩ | ⟨-, -, hgives⟩
    · exact hgives.names spawn hmem
    · exact hgives.names spawn hmem
  · obtain ⟨look, hmem, hlooked⟩ := prepare_looked hprepared hlook
    exact ⟨look, List.mem_append_left _ hmem, hlooked⟩

/-- A branch is made only of an accepted name, and behind a look that did not find it. -/
lemma create_vetted {w : Workspace} {name : Value} {checkout : Flag} {state : State}
    {before after : List Spawn} {spawn : Spawn}
    (h : ((perform w (.createBranch name checkout)).run state).spawns = before ++ spawn :: after)
    (hacts : spawn.Acts) : Vets before spawn (.createBranch name checkout) := by
  obtain ⟨alteration, hprepared, ⟨command, hmem, hnames⟩, hlooks⟩ :=
    order_acts (.create name checkout) h hacts
  obtain ⟨⟨⟩, -, hchecked⟩ := Action.answered_bind_iff.1 hprepared
  obtain ⟨⟨⟩, hensure, -⟩ := Action.answered_bind_iff.1 hchecked
  have hvalid : (BranchName.validateValue name).valid = true := by
    by_contra hinvalid
    rw [Bool.not_eq_true] at hinvalid
    rw [hinvalid] at hensure
    cases hensure
  obtain rfl := Option.some.inj (prepare_answered hprepared)
  obtain rfl := List.mem_singleton.1 hmem
  -- The name is among the arguments that were given, so that it is a text.
  obtain ⟨text, rfl⟩ := hnames.exists_text name (by split <;> simp [Command.args])
  have hplain := (BranchName.validateValue_valid_iff.1 hvalid).isPlain
  refine .create ?_ hvalid hplain (hlooks _ false rfl)
  cases hcheckout : checkout.holds with
  | true =>
    rw [hcheckout] at hnames
    exact (Command.names_iff rfl).1 hnames
  | false =>
    rw [hcheckout] at hnames
    exact (Command.names_iff rfl).1 hnames

/-- A branch is checked out only behind a look that found it. -/
lemma checkOut_vetted {w : Workspace} {name : Value} {state : State} {before after : List Spawn}
    {spawn : Spawn}
    (h : ((perform w (.checkoutBranch name)).run state).spawns = before ++ spawn :: after)
    (hacts : spawn.Acts) : Vets before spawn (.checkoutBranch name) := by
  obtain ⟨alteration, hprepared, ⟨command, hmem, hnames⟩, hlooks⟩ :=
    order_acts (.checkOut name) h hacts
  obtain rfl := Option.some.inj (prepare_answered hprepared)
  obtain rfl := List.mem_singleton.1 hmem
  obtain ⟨text, rfl⟩ := hnames.exists_text name (by simp [Command.args])
  exact .checkOut ((Command.names_iff rfl).1 hnames) (hlooks _ true rfl)

/-- A branch is deleted only behind a look that found it. -/
lemma delete_vetted {w : Workspace} {name : Value} {force : Flag} {state : State}
    {before after : List Spawn} {spawn : Spawn}
    (h : ((perform w (.deleteBranch name force)).run state).spawns = before ++ spawn :: after)
    (hacts : spawn.Acts) : Vets before spawn (.deleteBranch name force) := by
  obtain ⟨alteration, hprepared, ⟨command, hmem, hnames⟩, hlooks⟩ :=
    order_acts (.delete name force) h hacts
  obtain rfl := Option.some.inj (prepare_answered hprepared)
  obtain rfl := List.mem_singleton.1 hmem
  obtain ⟨text, rfl⟩ := hnames.exists_text name (by simp [Command.args])
  exact .delete ((Command.names_iff rfl).1 hnames) (hlooks _ true rfl)

/-- What is merged into a branch is listed, and deleted, only behind a look that found the
branch. -/
lemma cleanup_vetted {w : Workspace} {target : Value} {dryRun : Bool} {state : State}
    {before after : List Spawn} {spawn : Spawn}
    (h : ((perform w (.cleanup target dryRun)).run state).spawns = before ++ spawn :: after)
    (hacts : spawn.Acts) : Vets before spawn (.cleanup target dryRun) := by
  have hidle : Keeps (.every fun spawn => ¬ spawn.Acts)
      (requireRepository w >>= fun _ => requireBranch w target) :=
    (requireRepository_keeps_idle w).bind fun _ => requireBranch_keeps (showBranch_keeps_idle w _)
  rw [perform_cleanup, ← bind_assoc] at h
  obtain ⟨⟨⟩, between, hrequired, rfl, -⟩ :=
    Action.behind_of_not_mem h fun hmem => hidle state spawn hmem hacts
  obtain ⟨⟨⟩, hgate, hpresent⟩ := Action.answered_bind_iff.1 hrequired
  obtain ⟨look, hlook, hlooked⟩ := requireBranch_answered hpresent
  refine .cleanup ⟨look, List.mem_append_left _ ?_, hlooked⟩
  exact Action.mem_spawns_bind_iff.2 (.inr ⟨(), hgate, hlook⟩)

/-! ## What is turned down -/

/-- When the detection says yes, the gate is open. -/
lemma requireRepository_of_admits {w : Workspace} {state : State} (h : Admits w state) :
    ((requireRepository w).run state).outcome = .answered () := by
  have hyes : ((detectRepository w).run state).outcome = .answered true := by
    rcases h with ⟨value, hslot, hyes⟩ | ⟨hslot, completion, hrun, hyes⟩
    · cases detectRepository_run w state with
      | known value' slot outcome _ _ =>
        obtain rfl := Option.some.inj (hslot.symm.trans slot)
        rw [outcome, hyes]
      | told _ _ slot _ _ _ _ _ _ | failed _ slot _ _ _ _ _ | raised _ slot _ _ _ =>
        cases hslot.symm.trans slot
    · cases detectRepository_run w state with
      | known _ slot _ _ _ => cases hslot.symm.trans slot
      | told _ completion' _ run _ _ outcome _ _ =>
        obtain rfl := Outcome.answered.inj (hrun.symm.trans run)
        rw [outcome, hyes]
      | failed _ _ run _ _ _ _ => cases hrun.symm.trans run
      | raised _ _ run _ _ => cases hrun.symm.trans run
  rw [requireRepository, Action.run_bind_of_answered hyes]
  rfl

/-- The gate starts nothing but the command of the detection. -/
lemma requireRepository_spawns (w : Workspace) (state : State) :
    ∀ spawn ∈ ((requireRepository w).run state).spawns, spawn.args = Slot.isRepository.words := by
  have hdetect : Keeps (.every fun spawn => spawn.args = Slot.isRepository.words)
      (detectRepository w) := detectRepository_spawns w
  exact (hdetect.bind fun _ => .ensure _ _) state

/-- A new name is turned down: the failure tells the rules that it breaks, nothing is started but
what the gate starts, and no slot but that of the gate is written to. -/
structure RefusesName (w : Workspace) (name : Value) (state : State) (r : Run State Answer) :
    Prop where
  outcome : ∃ cause, r.outcome = .failed cause ∧
    cause.category = .invalidBranchName
      ((BranchName.validateValue name).errors.map BranchName.Violation.message)
  spawns : r.spawns = ((requireRepository w).run state).spawns
  cache : ∀ slot, slot ≠ .isRepository → r.state.cache.get slot = state.cache.get slot

/-- A name that is not valid is turned down behind the gate. -/
lemma create_refused {w : Workspace} {name : Value} {state : State} (hgate : Admits w state)
    (hname : (BranchName.validateValue name).valid = false) (checkout : Flag) :
    RefusesName w name state ((perform w (.createBranch name checkout)).run state) := by
  have hopen := requireRepository_of_admits hgate
  have hprepare : prepare w (.create name checkout) = requireRepository w >>= fun _ =>
      Action.fail (.nameInvalid name (BranchName.validateValue name).errors) := by
    rw [prepare]
    dsimp only
    rw [hname]
    rfl
  have hperform : perform w (.createBranch name checkout) = requireRepository w >>= fun _ =>
      Action.fail (.nameInvalid name (BranchName.validateValue name).errors) := by
    refine (perform_order w (.create name checkout)).trans ?_
    rw [hprepare, bind_assoc]
    rfl
  rw [hperform]
  refine ⟨⟨_, by rw [Action.run_bind_of_answered hopen]; rfl, rfl⟩, ?_, fun slot hslot => ?_⟩
  · rw [Action.spawns_bind_of_answered hopen]
    exact List.append_nil _
  · rw [Action.state_bind_of_answered hopen]
    exact requireRepository_keeps_untouched w hslot state

/-- The current branch is not deleted: the call fails for that reason, and has only asked where it
is and what is checked out. -/
structure RefusesCurrent (r : Run State Answer) : Prop where
  outcome : ∃ cause, r.outcome = .failed cause ∧ cause.category = .cannotDeleteCurrentBranch
  spawns : ∀ spawn ∈ r.spawns,
    spawn.args = Slot.isRepository.words ∨ spawn.args = Question.branch.words

/-- The current branch, if it is known, is not deleted.

**Proof sketch.** Behind the gate the call finds out the current branch (`learned_iff_tells`). It is
the one that is to be deleted, and nothing is started any more. -/
lemma delete_refused {w : Workspace} {name : String} {force : Flag} {state : State}
    (hgate : Admits w state)
    (hknown : Tells state ((perform w (.deleteBranch (.text name) force)).run state).spawns name) :
    RefusesCurrent ((perform w (.deleteBranch (.text name) force)).run state) := by
  have happroach : ((approach w (.deleteBranch (.text name) force)).run state).outcome =
      .answered "" := by
    rw [approach, Action.run_bind_of_answered (requireRepository_of_admits hgate)]
    · rfl
    · rintro _ _ ⟨⟩
  have happroached : Keeps (.every fun spawn => spawn.args = Slot.isRepository.words)
      (approach w (.deleteBranch (.text name) force)) :=
    Keeps.bind (requireRepository_spawns w) fun _ => .pure _
  have hremove : remove w "" (some name) (.deleteBranch (.text name) force) =
      Action.fail (.branchCheckedOut (.text name)) := by
    rw [remove, Value.ofText?, bne_self_eq_false]
    rfl
  have hlearned := (learned_iff_tells rfl happroach).2 hknown
  have hlearns := currentBranchName?_run (isInside_of_approach happroach) w
  rw [perform_of_isRemoval rfl]
  constructor
  · refine ⟨.branchCheckedOut (.text name), ?_, rfl⟩
    rw [Action.run_bind_of_answered happroach, Action.run_bind_of_answered hlearned, hremove]
    rfl
  · intro spawn hmem
    rw [Action.spawns_bind_of_answered happroach, Action.spawns_bind_of_answered hlearned,
      hremove] at hmem
    rcases List.mem_append.1 hmem with hgated | hmem
    · exact .inl (happroached state spawn hgated)
    · rcases List.mem_append.1 hmem with hasked | hnone
      · exact .inr (hlearns.args spawn hasked)
      · cases hnone

/-! ## Vetting -/

/-- **Vetting.** In every state, the four calls that do something with a branch act only behind a
look for that very branch: one that did not find it, if it is to be made, and else one that found
it; and a new branch is made only of a valid name, which is plain. In a repository a new name that
is not valid is turned down behind the gate with the rules that it breaks, and the current branch,
if it is known, is not deleted, by force or not; nothing has been looked for in either case.

**Proof sketch.** What a call does before its look does not act, so that an act comes behind the
look and behind the checks (`Action.behind_of_not_mem`). The look and the checks have let the call
go on, which tells what they came to. -/
theorem branch_operations_vetted (w : Workspace) (state : State) :
    (∀ call before spawn after, call.namesBranch = true →
      ((perform w call).run state).spawns = before ++ spawn :: after → spawn.Acts →
        Vets before spawn call) ∧
    (∀ name checkout, Admits w state → (BranchName.validateValue name).valid = false →
      RefusesName w name state ((perform w (.createBranch name checkout)).run state)) ∧
    ∀ name force, Admits w state →
      Tells state ((perform w (.deleteBranch (.text name) force)).run state).spawns name →
        RefusesCurrent ((perform w (.deleteBranch (.text name) force)).run state) := by
  refine ⟨fun call before spawn after hcall hspawns hacts => ?_,
    fun name checkout hgate hname => ?_, fun name force hgate hknown => ?_⟩
  · cases call with
    | createBranch name checkout => exact create_vetted hspawns hacts
    | checkoutBranch name => exact checkOut_vetted hspawns hacts
    | deleteBranch name force => exact delete_vetted hspawns hacts
    | cleanup target dryRun => exact cleanup_vetted hspawns hacts
    | _ => cases hcall
  · exact create_refused hgate hname checkout
  · exact delete_refused hgate hknown

/-- In a repository without a branch `topic` and with `main` checked out, `topic` is made behind a
look for it, `-x` is no name for a branch, and `main` is not deleted. -/
theorem branch_operations_vetted_topic :
    let state := State.initial (.succeeding [(Slot.isRepository.words, "true\n"),
      (Question.branch.words, "main\n"), (["checkout", "-b", "topic"], "")])
    let create : Call := .createBranch (.text "topic") true
    let refused : Call := .createBranch (.text "-x") true
    let delete : Call := .deleteBranch (.text "main") true
    (create.namesBranch = true ∧ ∃ before spawn after,
      ((perform .plain create).run state).spawns = before ++ spawn :: after ∧ spawn.Acts ∧
        Vets before spawn create) ∧
    Admits .plain state ∧
    ((BranchName.validateValue (.text "-x")).valid = false ∧
      RefusesName .plain (.text "-x") state ((perform .plain refused).run state)) ∧
    Tells state ((perform .plain delete).run state).spawns "main" ∧
      RefusesCurrent ((perform .plain delete).run state) := by
  intro state create refused delete
  have hgate : Admits .plain state := .inr ⟨rfl, _, rfl, by decide⟩
  have hname : (BranchName.validateValue (.text "-x")).valid = false := by decide
  have hargs : ((perform .plain create).run state).spawns.map Spawn.args =
      [Slot.isRepository.words, Command.lookWords (.text "topic"),
        ["checkout", "-b", "topic"]] := by
    decide
  obtain ⟨spawn, hmem, hspawn⟩ : ∃ spawn ∈ ((perform .plain create).run state).spawns,
      spawn.args = ["checkout", "-b", "topic"] := List.mem_map.1 (by simp [hargs])
  obtain ⟨before, after, hspawns⟩ := List.append_of_mem hmem
  have hacts : spawn.Acts := .inl (by rw [Spawn.alters, hspawn]; decide)
  have hknown : Tells state ((perform .plain delete).run state).spawns "main" := by
    obtain ⟨asking, hasking, hquestion, hreply⟩ : ∃ asking ∈
        ((perform .plain delete).run state).spawns, asking.args = Question.branch.words ∧
          asking.reply.success? = some ⟨.int 0, "main\n", ""⟩ := by decide
    exact .told asking _ hasking hquestion hreply (by decide)
  exact ⟨⟨rfl, before, spawn, after, hspawns, hacts,
      (branch_operations_vetted .plain state).1 create _ _ _ rfl hspawns hacts⟩,
    hgate, ⟨hname, (branch_operations_vetted .plain state).2.1 _ true hgate hname⟩,
    hknown, (branch_operations_vetted .plain state).2.2 "main" true hgate hknown⟩

end Session

end WorkTree
