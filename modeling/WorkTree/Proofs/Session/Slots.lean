import WorkTree.Proofs.Session.Questions

set_option relaxedAutoImplicit false
set_option autoImplicit false

/-!
# Slots follow the trace

Each slot of the cache has a command that fills it. As long as nothing is outdated, what a slot
holds is determined by the spawns of that command: it is started only while the slot is unset, and
the slot then holds what the reply is good for, possibly nothing. All other spawns leave it alone.
So between two moments at which a slot is unset on purpose at most one reply fills it, and from then
on its command is not started.

## Main definitions

* `WorkTree.Slot.command`, `WorkTree.Slot.words` — the command that fills a slot.
* `WorkTree.Slot.reading`, `WorkTree.Slot.keeps` — what a slot keeps of a completed command, and of
  a reply.
* `WorkTree.Slot.Follows` — what a slot holds before and after some spawns.
* `WorkTree.Slot.sightings` — what the replies among some spawns give a slot to keep.
* `WorkTree.Session.tracking` — every slot follows the trace.

## Main results

* `WorkTree.Slot.Follows.sightings_eq` — an unset slot keeps what there is to see, and there is at
  most one thing to see.
* `WorkTree.Slot.Follows.of_set` — a slot that is set stays as it is, and its command is not
  started.
* `WorkTree.Session.keptByQuestions_tracking` — all that only looks lets the slots follow the trace.
-/

namespace WorkTree

namespace Slot

/-! ## What fills a slot -/

/-- The command that fills a slot. -/
def command : Slot → Command
  | .isRepository => .insideWorkTree
  | .version => .version
  | .status => .status
  | .branch => .currentBranch
  | .remotes => .remotes

/-- The arguments of the command that fills a slot. -/
def words : Slot → List String
  | .isRepository => ["rev-parse", "--is-inside-work-tree"]
  | .version => ["--version"]
  | .status => Question.words .status
  | .branch => Question.words .branch
  | .remotes => Question.words .remotes

/-- What a slot keeps of a completed command. -/
def reading (slot : Slot) (completion : Completion) : Option Value :=
  match slot with
  | .isRepository => some (.bool (Session.affirms completion))
  | .version =>
    if completion.ok ∧ Session.versionLead.isPrefixOf completion.out.toList then
      some (.text (Text.strip completion.out))
    else none
  | .status => if completion.ok then some (.text (Question.status.trim completion.out)) else none
  | .branch => if completion.ok then some (.text (Question.branch.trim completion.out)) else none
  | .remotes => if completion.ok then some (.text (Question.remotes.trim completion.out)) else none

/-- What a slot keeps of a reply to its command. -/
def keeps (slot : Slot) (reply : Reply) : Option Value :=
  reply.completion?.bind slot.reading

/-- The command of a slot names its arguments, and no others. -/
lemma names_iff {slot : Slot} {args : List String} :
    slot.command.Names args ↔ args = slot.words :=
  Command.names_iff (by cases slot <;> rfl)

/-- The arguments that fill a slot are those of no other command. -/
lemma command_of_names {slot : Slot} {command : Command} (h : command.Names slot.words) :
    command = slot.command := by
  have hverb : command.verb = slot.command.verb :=
    Option.some.inj (h.head?.symm.trans (names_iff.2 rfl : slot.command.Names slot.words).head?)
  cases slot <;> cases command <;> first | rfl | simp [Command.verb, Slot.command] at hverb

/-- The command that fills a slot only asks. -/
lemma command_isReadOnly (slot : Slot) : slot.command.isReadOnly = true := by
  cases slot <;> rfl

/-- The spawns of the command of a slot change nothing. -/
lemma not_alters {slot : Slot} {spawn : Spawn} (h : spawn.args = slot.words) :
    spawn.alters = false := by
  have hnames : slot.command.Names spawn.args := names_iff.2 h
  rw [hnames.alters, command_isReadOnly, Bool.not_true]

/-- A command that may change something fills no slot. -/
lemma ne_command_of_alters {slot : Slot} {command : Command} (h : command.isReadOnly = false) :
    command ≠ slot.command := by
  rintro rfl
  rw [command_isReadOnly] at h
  cases h

/-- Different slots are filled by different commands. -/
lemma words_injective {slot slot' : Slot} (h : slot.words = slot'.words) : slot = slot' := by
  cases slot <;> cases slot' <;> first | rfl | exact absurd h (by decide)

/-- What is not in the cache is asked by giving the command of the slot of the question. -/
lemma loader_question (w : Workspace) (question : Question) :
    question.loader w = Session.git w question.slot.command >>= fun completion =>
      Action.orFail (question.accept w completion) := by
  rw [question.loader_eq w]
  cases question <;> rfl

/-- The arguments that fill the slot of a question are those that ask it. -/
lemma words_question (question : Question) : question.slot.words = question.words := by
  cases question <;> rfl

/-- The arguments that ask a question are those of no command but its own. -/
lemma command_of_names_question {question : Question} {command : Command}
    (h : command.Names question.words) : command = question.command := by
  rw [← words_question] at h
  rw [command_of_names h]
  cases question <;> rfl

/-- What the slot of a question keeps of a completed command is its output, trimmed. -/
lemma reading_question (question : Question) (completion : Completion) :
    question.slot.reading completion =
      if completion.ok then some (.text (question.trim completion.out)) else none := by
  cases question <;> rfl

/-- What the slot of a question keeps of a reply is the output of a command that succeeded,
trimmed. -/
lemma keeps_question (question : Question) (reply : Reply) :
    question.slot.keeps reply =
      reply.success?.map fun completion => .text (question.trim completion.out) := by
  rw [keeps, Reply.success?_eq]
  cases reply.completion? with
  | none => rfl
  | some completion =>
    by_cases hok : completion.ok = true <;> simp [reading_question, Option.filter_some, hok]

/-! ## Following spawns -/

/-- What a slot holds before and after some spawns: its command is started only while the slot is
unset, and fills it with what the reply is good for; any other spawn leaves it. -/
inductive Follows (slot : Slot) : Option Value → List Spawn → Option Value → Prop where
  | nil (content : Option Value) : Follows slot content [] content
  | other {content content' : Option Value} {spawn : Spawn} {spawns : List Spawn}
      (hargs : spawn.args ≠ slot.words) (hrest : Follows slot content spawns content') :
      Follows slot content (spawn :: spawns) content'
  | own {content : Option Value} {spawn : Spawn} {spawns : List Spawn}
      (hargs : spawn.args = slot.words)
      (hrest : Follows slot (slot.keeps spawn.reply) spawns content) :
      Follows slot none (spawn :: spawns) content

/-- What the replies among some spawns give a slot to keep. -/
def sightings (slot : Slot) (spawns : List Spawn) : List Value :=
  spawns.filterMap fun spawn => if spawn.args = slot.words then slot.keeps spawn.reply else none

/-- A spawn of another command shows nothing. -/
lemma sightings_cons_other {slot : Slot} {spawn : Spawn} (h : spawn.args ≠ slot.words)
    (spawns : List Spawn) : slot.sightings (spawn :: spawns) = slot.sightings spawns := by
  rw [sightings, List.filterMap_cons, if_neg h]
  rfl

/-- A spawn of a slot's own command shows what its reply is good for. -/
lemma sightings_cons_own {slot : Slot} {spawn : Spawn} (h : spawn.args = slot.words)
    (spawns : List Spawn) :
    slot.sightings (spawn :: spawns) =
      (slot.keeps spawn.reply).toList ++ slot.sightings spawns := by
  rw [sightings, List.filterMap_cons, if_pos h]
  cases slot.keeps spawn.reply <;> rfl

namespace Follows

variable {slot : Slot} {content content' content'' : Option Value} {spawns spawns' : List Spawn}

/-- A slot follows one list of spawns behind another. -/
lemma append (h : Follows slot content spawns content')
    (h' : Follows slot content' spawns' content'') :
    Follows slot content (spawns ++ spawns') content'' := by
  induction h with
  | nil content => exact h'
  | other hargs _ ih => exact .other hargs (ih h')
  | own hargs _ ih => exact .own hargs (ih h')

/-- Spawns of other commands leave a slot as it is. -/
lemma of_others (h : ∀ spawn ∈ spawns, spawn.args ≠ slot.words) :
    Follows slot content spawns content := by
  induction spawns with
  | nil => exact .nil content
  | cons spawn spawns ih =>
    exact .other (h spawn (by simp)) (ih fun spawn' hmem => h spawn' (by simp [hmem]))

/-- A slot whose own command is not started stays as it is. -/
lemma eq_of_others (h : Follows slot content spawns content')
    (hothers : ∀ spawn ∈ spawns, spawn.args ≠ slot.words) : content' = content := by
  induction h with
  | nil content => rfl
  | other _ _ ih => exact ih fun spawn hmem => hothers spawn (List.mem_cons_of_mem _ hmem)
  | own hargs _ _ => exact absurd hargs (hothers _ List.mem_cons_self)

/-- A slot that is set stays as it is, and its command is not started. -/
lemma of_set {value : Value} (h : Follows slot (some value) spawns content) :
    content = some value ∧ ∀ spawn ∈ spawns, spawn.args ≠ slot.words := by
  generalize hbefore : some value = before at h
  induction h with
  | nil content => exact ⟨rfl, by simp⟩
  | other hargs _ ih =>
    obtain ⟨hcontent, hothers⟩ := ih hbefore
    exact ⟨hcontent, List.forall_mem_cons.2 ⟨hargs, hothers⟩⟩
  | own _ _ _ => cases hbefore

/-- A slot that is set has nothing more to see.

**Proof sketch.** None of the spawns is of its own command (`of_set`). -/
lemma sightings_of_set {value : Value} (h : Follows slot (some value) spawns content) :
    slot.sightings spawns = [] := by
  refine List.filterMap_eq_nil_iff.2 fun spawn hmem => ?_
  rw [if_neg (h.of_set.2 spawn hmem)]

/-- An unset slot keeps what there is to see, and there is at most one thing to see.

**Proof sketch.** Induction on the spawns. A reply that is good for nothing leaves the slot unset,
and the induction hypothesis applies to the rest; one that is good for something sets it, and then
there is nothing more to see (`sightings_of_set`). -/
lemma sightings_eq (h : Follows slot none spawns content) :
    slot.sightings spawns = content.toList := by
  generalize hbefore : none = before at h
  induction h with
  | nil content => subst hbefore; rfl
  | other hargs _ ih => rw [sightings_cons_other hargs, ih hbefore]
  | own hargs hrest ih =>
    rw [sightings_cons_own hargs]
    cases hkeeps : slot.keeps _ with
    | none => exact ih hkeeps.symm
    | some value =>
      rw [hkeeps] at hrest
      rw [hrest.sightings_of_set, hrest.of_set.1]
      rfl

/-- When its own command is started, nothing has been seen before. -/
lemma sightings_eq_nil_of_own {spawn : Spawn}
    (h : Follows slot content (spawns ++ spawn :: spawns') content')
    (hargs : spawn.args = slot.words) : content = none ∧ slot.sightings spawns = [] := by
  induction spawns generalizing content with
  | nil =>
    cases h with
    | other hne _ => exact absurd hargs hne
    | own _ _ => exact ⟨rfl, rfl⟩
  | cons first spawns ih =>
    cases h with
    | other hne hrest =>
      rw [sightings_cons_other hne]
      exact ih hrest
    | own hown hrest =>
      obtain ⟨hkeeps, hnone⟩ := ih hrest
      rw [sightings_cons_own hown, hkeeps, hnone]
      exact ⟨rfl, rfl⟩

end Follows

end Slot

namespace Session

open WorkTree.Action (Keeps)

/-! ## Sessions follow the trace -/

/-- Every slot follows the trace. -/
def tracking : TraceRelation State :=
  .ofSpawns (fun state spawns state' =>
      ∀ slot : Slot, slot.Follows (state.cache.get slot) spawns (state'.cache.get slot))
    (fun _ _ => .nil _) (fun h h' slot => (h slot).append (h' slot))

/-- When the command of an unset slot is given, that slot follows the trace by keeping what the
command is answered with, and the other slots by staying as they are.

**Proof sketch.** If the command is not started there is no answer, and nothing changes. If it is
started, the answer is the completed command that the reply is taken for; the command of another
slot has other words (`Slot.words_injective`). -/
lemma follows_git (w : Workspace) {slot : Slot} {state : State}
    (hunset : state.cache.get slot = none) (other : Slot) :
    other.Follows (state.cache.get other) ((git w slot.command).run state).spawns
      (if other = slot then ((git w slot.command).run state).outcome.answer?.bind slot.reading
        else state.cache.get other) := by
  rw [git_spawns, git_outcome]
  cases w.give_run slot.command state.script with
  | never spawns _ outcome =>
    have hnone : ((w.give slot.command).run state.script).outcome.answer? = none := by
      cases h : ((w.give slot.command).run state.script).outcome with
      | answered completion => rw [h] at outcome; cases outcome
      | failed cause => rfl
      | aborted fault => rfl
    rw [spawns, hnone]
    by_cases hother : other = slot
    · subst hother
      rw [hunset, if_pos rfl]
      exact .nil none
    · rw [if_neg hother]
      exact .nil _
  | once spawn spawns args _ outcome =>
    have hanswer :
        ((w.give slot.command).run state.script).outcome.answer? = spawn.reply.completion? :=
      Option.ext fun completion => Outcome.answer?_eq_some_iff.trans (outcome completion)
    rw [spawns, hanswer]
    have hargs : spawn.args = slot.words := Slot.names_iff.1 args
    by_cases hother : other = slot
    · subst hother
      rw [hunset, if_pos rfl]
      exact .own hargs (.nil _)
    · rw [if_neg hother]
      refine .other (fun hargs' => hother ?_) (.nil _)
      exact Slot.words_injective (hargs'.symm.trans hargs)

/-- An action starts nothing, and leaves something in a slot that was unset. -/
def Fills {α : Type} (slot : Slot) (content : Option Value) (action : Session α) : Prop :=
  ∀ state : State, state.cache.get slot = none →
    (action.run state).spawns = [] ∧
      ∀ other, (action.run state).state.cache.get other =
        if other = slot then content else state.cache.get other

namespace Fills

variable {α : Type} {slot : Slot}

/-- An action that does nothing leaves a slot unset. -/
lemma of_still {action : Session α} (hspawns : ∀ state, (action.run state).spawns = [])
    (hcache : ∀ state, (action.run state).state.cache = state.cache) :
    Fills slot none action := by
  intro state hunset
  refine ⟨hspawns state, fun other => ?_⟩
  rw [hcache state]
  split
  · next hother => rw [hother, hunset]
  · rfl

/-- Putting a value into a slot and answering fills it. -/
lemma write (value : Value) (answer : α) :
    Fills slot value.toOption (do writeSlot slot value; return answer) := by
  intro state _
  refine ⟨rfl, fun other => ?_⟩
  exact Cache.get_write state.cache slot other _

end Fills

/-- A slot that is filled by asking its command follows the trace.

**Proof sketch.** A slot that is set is only looked at. If it is unset, its command is given, and
the slots have followed the trace when it holds what the command was answered with (`follows_git`).
If a fault ended the command, the slot stays unset; otherwise what comes behind it fills it. -/
lemma asking_keeps {α β : Type} (w : Workspace) (slot : Slot) {next : Option Value → Session α}
    {accept : Completion → Except Cause β} {taken : Except Cause β → Session α}
    (hset : ∀ value, Keeps tracking (next (some value)))
    (hunset : next none = Action.attempt (git w slot.command >>= fun completion =>
      Action.orFail (accept completion)) >>= taken)
    (hfills : ∀ answer : Except Cause Completion,
      Fills slot (answer.toOption.bind slot.reading) (taken (answer >>= accept))) :
    Keeps tracking (readSlot slot >>= next) := by
  intro state
  rw [run_readSlot_bind]
  cases hslot : state.cache.get slot with
  | some value => exact hset value state
  | none =>
    rw [hunset, Action.attempt_bind_orFail, bind_assoc]
    simp only [pure_bind]
    intro other
    change other.Follows (state.cache.get other) (Run.spawns _) (Cache.get _ other)
    have hfollows := follows_git w hslot other
    rcases Action.attempt_cases (git w slot.command) state with
      ⟨fault, houtcome, hattempt⟩ | ⟨answer, hattempt, hanswer⟩
    · have hended :
          ((Action.attempt (git w slot.command)).run state).outcome.isAnswered = false := by
        rw [hattempt]
        rfl
      obtain ⟨-, hstate, hevents⟩ :=
        Action.run_bind_of_not_answered hended fun answer => taken (answer >>= accept)
      rw [Run.spawns, hstate, hevents]
      have hkept : (if other = slot then (Outcome.aborted fault).answer?.bind slot.reading
          else state.cache.get other) = state.cache.get other := by
        split
        · next hother => rw [hother, hslot]; rfl
        · rfl
      rw [houtcome, hkept] at hfollows
      exact hfollows
    · obtain ⟨hspawns, hcontent⟩ := hfills answer ((git w slot.command).run state).state hslot
      rw [Action.spawns_bind_of_answered hattempt, Action.state_bind_of_answered hattempt]
      change other.Follows _ (((git w slot.command).run state).spawns ++
        ((taken (answer >>= accept)).run ((git w slot.command).run state).state).spawns)
        (((taken (answer >>= accept)).run
          ((git w slot.command).run state).state).state.cache.get other)
      rw [hspawns, List.append_nil, hcontent, hanswer]
      exact hfollows

/-- A command that fills no slot lets the slots follow the trace. -/
lemma git_keeps_tracking (w : Workspace) {command : Command}
    (h : ∀ slot : Slot, command ≠ slot.command) : Keeps tracking (git w command) := by
  intro state slot
  change slot.Follows (state.cache.get slot) ((w.give command).run state.script).spawns
    (state.cache.get slot)
  cases w.give_run command state.script with
  | never spawns _ _ =>
    rw [spawns]
    exact .nil _
  | once spawn spawns args _ _ =>
    rw [spawns]
    exact .other (fun hargs => h slot (Slot.command_of_names (hargs ▸ args))) (.nil _)

/-- Detecting the repository lets the slots follow the trace. -/
lemma detectRepository_keeps_tracking (w : Workspace) : Keeps tracking (detectRepository w) := by
  refine asking_keeps w .isRepository (fun value => .pure value.truthy)
    (congrArg (Action.attempt · >>= _) (git_eq_bind_orFail w .insideWorkTree)) fun answer => ?_
  cases answer with
  | ok completion => exact .write (.bool (affirms completion)) (affirms completion)
  | error cause => exact .of_still (fun _ => rfl) (fun _ => rfl)

/-- Checking the installation lets the slots follow the trace. -/
lemma checkInstallation_keeps_tracking (w : Workspace) : Keeps tracking (checkInstallation w) := by
  refine asking_keeps w .version (fun value => .pure true)
    (congrArg (Action.attempt · >>= _) (gitChecked_eq w .version)) fun answer => ?_
  cases answer with
  | error cause => exact .of_still (fun _ => rfl) (fun _ => rfl)
  | ok completion =>
    change Fills .version (Slot.reading .version completion) _
    by_cases hok : completion.ok = true
    · have haccept : (Except.ok completion >>= accept w .version) = .ok completion.out :=
        if_pos hok
      rw [haccept]
      by_cases hlead : versionLead.isPrefixOf completion.out.toList = true
      · simp only [Slot.reading, hok, hlead, if_true, and_self]
        exact .write (.text (Text.strip completion.out)) true
      · simp only [Slot.reading, hlead, Bool.false_eq_true, and_false, if_false]
        exact .of_still (fun _ => rfl) (fun _ => rfl)
    · have haccept : (Except.ok completion >>= accept w .version) =
          .error (.exited w.directory (wordsOf .version) completion) := if_neg hok
      rw [haccept]
      simp only [Slot.reading, hok, Bool.false_eq_true, false_and, if_false]
      exact .of_still (fun _ => rfl) (fun _ => rfl)

/-- Reading a question through the cache lets the slots follow the trace. -/
lemma read_keeps_tracking (w : Workspace) (question : Question) :
    Keeps tracking (question.read w) := by
  have hloader := Slot.loader_question w question
  refine Keeps.bind ((detectRepository_keeps_tracking w).bind fun _ => .ensure _ _) fun _ => ?_
  refine asking_keeps w question.slot (fun value => .pure (value.asText, true))
    ((Action.bind_eq_attempt_bind _ _).trans (congrArg (Action.attempt · >>= _) hloader))
    fun answer => ?_
  cases answer with
  | error cause => exact .of_still (fun _ => rfl) (fun _ => rfl)
  | ok completion =>
    change Fills question.slot (question.slot.reading completion) _
    rw [Slot.reading_question]
    by_cases hok : completion.ok = true
    · have haccept : (Except.ok completion >>= question.accept w) =
          .ok (question.trim completion.out) := if_pos hok
      rw [if_pos hok, haccept]
      exact .write (.text (question.trim completion.out)) _
    · have haccept : (Except.ok completion >>= question.accept w) =
          .error (question.refusal w completion) := if_neg hok
      rw [if_neg hok, haccept]
      exact .of_still (fun _ => rfl) (fun _ => rfl)

/-- All that only looks lets the slots follow the trace. -/
lemma keptByQuestions_tracking (w : Workspace) :
    KeptByQuestions tracking w fun _ => True where
  log severity message := fun _ _ => .nil _
  detect := detectRepository_keeps_tracking w
  installation := checkInstallation_keeps_tracking w
  read question _ := read_keeps_tracking w question
  showBranch name := git_keeps_tracking w fun slot => by cases slot <;> nofun
  listRefs := git_keeps_tracking w fun slot => by cases slot <;> nofun
  listMerged target := git_keeps_tracking w fun slot => by cases slot <;> nofun

end Session

end WorkTree
