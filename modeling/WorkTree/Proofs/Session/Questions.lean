import WorkTree.Proofs.Command
import WorkTree.Session.Call

set_option relaxedAutoImplicit false
set_option autoImplicit false

/-!
# Questions and what asking them keeps

Three questions about a repository are read through the cache in one and the same way; they differ
in slot, command and trimming. Whatever a session does before it changes a repository is made of
these three readings, of the two probes for the repository and for git itself, and of commands that
only ask. A trace relation that these few keep is therefore kept by everything that only looks.

## Main definitions

* `WorkTree.Question` — the three questions, with slot, command, trimming, call and answer.
* `WorkTree.Session.KeptByLooks` — a trace relation is kept by the parts of which all that only
  looks is made.
* `WorkTree.Session.KeptByQuestions` — it is kept by the log as well, whatever is written to it.
* `WorkTree.Call.Asks` — the questions that a call may read on its way.

## Main results

* `WorkTree.Question.perform_call` — the call of a question is its reading.
* `WorkTree.Session.KeptByLooks.report`, `WorkTree.Session.KeptByLooks.overview`,
  `WorkTree.Session.KeptByLooks.listing` — the operations that only look keep the relation.
-/

namespace WorkTree

/-! ## The three questions -/

/-- The questions about a repository whose answers are kept. -/
inductive Question where
  | status
  | branch
  | remotes
  deriving DecidableEq, Repr

namespace Question

/-- The slot of a question. -/
def slot : Question → Slot
  | .status => .status
  | .branch => .branch
  | .remotes => .remotes

/-- The command that asks a question. -/
def command : Question → Command
  | .status => .status
  | .branch => .currentBranch
  | .remotes => .remotes

/-- The arguments of the command that asks a question. -/
def words : Question → List String
  | .status => ["status", "--porcelain"]
  | .branch => Command.currentBranchWords
  | .remotes => ["remote", "-v"]

/-- What is kept of the output: the current branch loses its blanks at both ends, a listing only
those at its end. -/
def trim : Question → String → String
  | .branch => Text.strip
  | .status | .remotes => Text.stripEnd

/-- What asks a question that is not in the cache. -/
def loader (w : Workspace) : Question → Session String
  | .branch => Session.readCurrentBranch w
  | question => Session.trimmedOutput w question.command

/-- The reading of a question through the cache. -/
def read (w : Workspace) (question : Question) : Session (String × Bool) :=
  Session.cachedRead w question.slot (question.loader w)

/-- The call that puts a question. -/
def call : Question → Call
  | .status => .status
  | .branch => .currentBranch
  | .remotes => .remotes

/-- The answer to a question: a text, and whether it was in the cache. -/
def answer (question : Question) (text : String) (cached : Bool) : Answer :=
  match question with
  | .status => .status ⟨text, cached⟩
  | .branch => .branch ⟨text, cached⟩
  | .remotes => .remotes ⟨text, cached⟩

/-- Why a completed command does not answer a question. -/
def refusal (w : Workspace) (question : Question) (completion : Completion) : Cause :=
  match question with
  | .branch =>
    if completion.hasCode 1 ∧ Text.strip completion.err = "" then .headDetached w.directory
    else .headUnreadable Command.currentBranchWords completion
  | .status | .remotes => .exited w.directory question.words completion

/-- What a completed command comes to as an answer to a question. -/
def accept (w : Workspace) (question : Question) (completion : Completion) : Except Cause String :=
  if completion.ok then .ok (question.trim completion.out)
  else .error (question.refusal w completion)

/-- No question is kept in the slot of the detection. -/
lemma slot_ne_isRepository (question : Question) : question.slot ≠ .isRepository := by
  cases question <;> decide

/-- Different questions have different commands. -/
lemma command_injective {question question' : Question}
    (h : question.command = question'.command) : question = question' := by
  cases question <;> cases question' <;> first | rfl | cases h

/-- The trimmed output of a command that has to succeed. -/
lemma trimmedOutput_eq (w : Workspace) (command : Command) :
    Session.trimmedOutput w command = Session.git w command >>= fun completion =>
      Action.orFail ((Session.accept w command completion).map Text.stripEnd) := by
  rw [Session.trimmedOutput, Session.gitChecked_eq, bind_assoc]
  congr 1
  funext completion
  cases Session.accept w command completion <;> rfl

/-- What is not in the cache is asked by giving the command and looking at its exit code. -/
lemma loader_eq (w : Workspace) (question : Question) :
    question.loader w = Session.git w question.command >>= fun completion =>
      Action.orFail (question.accept w completion) := by
  cases question with
  | branch =>
    change Session.git w .currentBranch >>= _ = Session.git w .currentBranch >>= _
    congr 1
    funext completion
    simp only [accept, refusal]
    split
    · rfl
    · split <;> rfl
  | status =>
    change Session.trimmedOutput w .status = _
    rw [trimmedOutput_eq]
    congr 1
    funext completion
    simp only [Session.accept, accept]
    split <;> rfl
  | remotes =>
    change Session.trimmedOutput w .remotes = _
    rw [trimmedOutput_eq]
    congr 1
    funext completion
    simp only [Session.accept, accept]
    split <;> rfl

/-- The question for changes is a reading. -/
lemma status_eq (w : Workspace) :
    Session.status w = (fun r => ⟨r.1, r.2⟩) <$> read w .status := by
  rw [← bind_pure_comp]
  rfl

/-- The question for the current branch is a reading. -/
lemma currentBranch_eq (w : Workspace) :
    Session.currentBranch w = (fun r => ⟨r.1, r.2⟩) <$> read w .branch := by
  rw [← bind_pure_comp]
  rfl

/-- The question for the remotes is a reading. -/
lemma remotes_eq (w : Workspace) :
    Session.remotes w = (fun r => ⟨r.1, r.2⟩) <$> read w .remotes := by
  rw [← bind_pure_comp]
  rfl

/-- The call of a question is its reading. -/
lemma perform_call (w : Workspace) (question : Question) :
    Session.perform w question.call = (fun r => question.answer r.1 r.2) <$> question.read w := by
  cases question with
  | status => rw [call, Session.perform, status_eq, ← comp_map]; rfl
  | branch => rw [call, Session.perform, currentBranch_eq, ← comp_map]; rfl
  | remotes => rw [call, Session.perform, remotes_eq, ← comp_map]; rfl

end Question

/-! ## What a call may read -/

/-- The questions that a call may read on its way. -/
def Call.Asks : Call → Question → Prop
  | .status, question => question = .status
  | .remotes, question => question = .remotes
  | .currentBranch, question | .deleteBranch _ _, question | .listBranches, question
  | .cleanup _ _, question => question = .branch
  | .push _ branch, question => question = .branch ∧ branch = .null
  | .health, _ | .overview, _ => True
  | _, _ => False

namespace Session

open WorkTree.Action (Keeps)

/-- A trace relation is kept by the two probes, by the readings of some questions and by the
commands that look something up. -/
structure KeptByLooks (R : TraceRelation State) (w : Workspace) (asked : Question → Prop) :
    Prop where
  detect : Keeps R (detectRepository w)
  installation : Keeps R (checkInstallation w)
  read : ∀ question, asked question → Keeps R (question.read w)
  showBranch : ∀ name, Keeps R (git w (.showBranch name))
  listRefs : Keeps R (git w .listRefs)
  listMerged : ∀ target, Keeps R (git w (.listMerged target))

/-- A trace relation is kept by all of these and by the log. -/
structure KeptByQuestions (R : TraceRelation State) (w : Workspace) (asked : Question → Prop) : Prop
    extends KeptByLooks R w asked where
  log : ∀ severity message, Keeps R (log severity message)

/-- A command that has to succeed keeps what the command keeps. -/
lemma gitChecked_keeps {R : TraceRelation State} {w : Workspace} {command : Command}
    (h : Keeps R (git w command)) : Keeps R (gitChecked w command) := by
  rw [gitChecked_eq]
  exact h.bind fun completion => .orFail _

/-- What comes behind a look at a slot goes by what it holds. -/
lemma run_readSlot_bind {α : Type} (slot : Slot) (next : Option Value → Session α)
    (state : State) :
    (readSlot slot >>= next).run state = (next (state.cache.get slot)).run state :=
  rfl

/-- Looking at a slot keeps every trace relation. -/
lemma readSlot_keeps {R : TraceRelation State} (slot : Slot) : Keeps R (readSlot slot) :=
  Keeps.get.bind fun state => .pure (state.cache.get slot)

/-- The detection keeps what its command, the log and writing to its slot keep. -/
lemma detectRepository_keeps {R : TraceRelation State} {w : Workspace}
    (hlog : ∀ message, Keeps R (log .debug message))
    (hwrite : ∀ value, Keeps R (writeSlot .isRepository value))
    (hgit : Keeps R (git w .insideWorkTree)) : Keeps R (detectRepository w) := by
  refine (readSlot_keeps .isRepository).bind fun content => ?_
  cases content with
  | some value => exact .pure value.truthy
  | none =>
    refine hgit.attempt.bind fun answer => ?_
    cases answer with
    | error cause => exact (hlog _).bind fun _ => .fail cause
    | ok completion => exact (hwrite _).bind fun _ => .pure _

/-- Reading a question keeps what the gate, its command and writing to its slot keep. -/
lemma read_keeps {R : TraceRelation State} {w : Workspace} {question : Question}
    (hgate : Keeps R (requireRepository w))
    (hwrite : ∀ value, Keeps R (writeSlot question.slot value))
    (hgit : Keeps R (git w question.command)) : Keeps R (question.read w) := by
  refine hgate.bind fun _ => ?_
  refine (readSlot_keeps question.slot).bind fun content => ?_
  cases content with
  | some value => exact .pure _
  | none =>
    have hloader : Keeps R (question.loader w) := by
      rw [question.loader_eq w]
      exact hgit.bind fun completion => .orFail _
    exact hloader.bind fun text => (hwrite _).bind fun _ => .pure _

/-- Finding out the current branch keeps what reading the question for it keeps. -/
lemma currentBranchName?_keeps {R : TraceRelation State} {w : Workspace}
    (h : Keeps R (Question.branch.read w)) : Keeps R (currentBranchName? w) := by
  have hcurrent : Keeps R (currentBranch w) := Question.currentBranch_eq w ▸ h.map _
  refine hcurrent.attempt.bind fun answer => ?_
  cases answer with
  | ok info => exact .pure (some info.branch)
  | error cause => exact .pure none

/-- Looking for a branch keeps what its command keeps. -/
lemma branchExists_keeps {R : TraceRelation State} {w : Workspace} {name : Value}
    (h : Keeps R (git w (.showBranch name.asText))) : Keeps R (branchExists w name) :=
  h.bind fun completion => .pure completion.ok

/-- Requiring a branch keeps what looking for it keeps. -/
lemma requireBranch_keeps {R : TraceRelation State} {w : Workspace} {name : Value}
    (h : Keeps R (git w (.showBranch name.asText))) : Keeps R (requireBranch w name) :=
  (branchExists_keeps h).bind fun found => .ensure found _

/-- A trace relation that no writing to the cache and no least record of the log breaks is kept by
all that only looks as soon as the commands that only ask keep it, of those that ask the questions
only the ones in question. -/
lemma keptByLooks_of_git {R : TraceRelation State} {w : Workspace} {asked : Question → Prop}
    (hlog : ∀ message, Keeps R (log .debug message))
    (hwrite : ∀ slot value, Keeps R (writeSlot slot value))
    (hgit : ∀ command, command.isReadOnly = true →
      (∀ question : Question, question.command = command → asked question) →
        Keeps R (git w command)) :
    KeptByLooks R w asked := by
  have hdetect : Keeps R (detectRepository w) :=
    detectRepository_keeps hlog (hwrite _) (hgit .insideWorkTree rfl (by rintro (_ | _ | _) ⟨⟩))
  refine ⟨hdetect, ?_, ?_, ?_, ?_, ?_⟩
  · refine (readSlot_keeps .version).bind fun content => ?_
    cases content with
    | some value => exact .pure true
    | none =>
      refine (gitChecked_keeps (hgit .version rfl (by rintro (_ | _ | _) ⟨⟩))).attempt.bind
        fun answer => ?_
      cases answer with
      | error cause => exact (hlog _).bind fun _ => .pure false
      | ok output =>
        dsimp only
        split
        · exact (hwrite _ _).bind fun _ => .pure true
        · exact (hlog _).bind fun _ => .pure false
  · intro question hasked
    refine read_keeps (hdetect.bind fun _ => .ensure _ _) (hwrite _) ?_
    refine hgit _ (by cases question <;> rfl) fun question' hquestion => ?_
    rwa [Question.command_injective hquestion]
  · exact fun name => hgit _ rfl (by rintro (_ | _ | _) ⟨⟩)
  · exact hgit _ rfl (by rintro (_ | _ | _) ⟨⟩)
  · exact fun target => hgit _ rfl (by rintro (_ | _ | _) ⟨⟩)

/-- A trace relation that no writing to the cache and to the log breaks is kept as soon as the
commands that only ask keep it, of those that ask the questions only the ones in question. -/
lemma keptByQuestions_of_git {R : TraceRelation State} {w : Workspace} {asked : Question → Prop}
    (hlog : ∀ severity message, Keeps R (log severity message))
    (hwrite : ∀ slot value, Keeps R (writeSlot slot value))
    (hgit : ∀ command, command.isReadOnly = true →
      (∀ question : Question, question.command = command → asked question) →
        Keeps R (git w command)) :
    KeptByQuestions R w asked where
  toKeptByLooks := keptByLooks_of_git (hlog _) hwrite hgit
  log := hlog

/-- A property that the spawns of commands that only ask have is kept. -/
lemma keptByQuestions_every {w : Workspace} {asked : Question → Prop} {p : Spawn → Prop}
    (h : ∀ (command : Command) (spawn : Spawn), command.isReadOnly = true →
      (∀ question : Question, question.command = command → asked question) →
        command.Names spawn.args → p spawn) :
    KeptByQuestions (.every p) w asked :=
  keptByQuestions_of_git (fun _ _ _ => TraceRelation.every_of_no_spawns rfl)
    (fun _ _ _ => TraceRelation.every_of_no_spawns rfl)
    fun command hreadOnly hasked => git_keeps_every w fun spawn => h command spawn hreadOnly hasked

/-- All that only looks starts nothing that may change something. -/
lemma keptByQuestions_not_alters (w : Workspace) :
    KeptByQuestions (.every fun spawn => spawn.alters = false) w fun _ => True :=
  keptByQuestions_every fun command spawn hreadOnly _ hnames => by
    rw [hnames.alters, hreadOnly, Bool.not_true]

namespace KeptByLooks

variable {R : TraceRelation State} {w : Workspace} {asked : Question → Prop}
  (h : KeptByLooks R w asked)

include h

/-- What is kept when some questions are asked is kept when fewer are. -/
lemma mono {asked' : Question → Prop} (hasked : ∀ question, asked' question → asked question) :
    KeptByLooks R w asked' :=
  { h with read := fun question hquestion => h.read question (hasked question hquestion) }

/-- The gate keeps the relation. -/
lemma gate : Keeps R (requireRepository w) :=
  h.detect.bind fun isRepository => .ensure isRepository _

/-- The question whether the directory lies in a repository keeps the relation. -/
lemma isRepository : Keeps R (isRepository w) := by
  refine h.detect.attempt.bind fun answer => ?_
  cases answer with
  | ok answer => exact .pure answer
  | error cause => exact .pure false

/-- The question for changes keeps the relation. -/
lemma status (hasked : asked .status) : Keeps R (status w) :=
  Question.status_eq w ▸ (h.read _ hasked).map _

/-- The question for the current branch keeps the relation. -/
lemma currentBranch (hasked : asked .branch) : Keeps R (currentBranch w) :=
  Question.currentBranch_eq w ▸ (h.read _ hasked).map _

/-- The question for the remotes keeps the relation. -/
lemma remotes (hasked : asked .remotes) : Keeps R (remotes w) :=
  Question.remotes_eq w ▸ (h.read _ hasked).map _

/-- Finding out the name of the current branch keeps the relation. -/
lemma currentName (hasked : asked .branch) : Keeps R (currentBranchName? w) :=
  currentBranchName?_keeps (h.read _ hasked)

/-- Requiring a branch keeps the relation. -/
lemma require (name : Value) : Keeps R (requireBranch w name) :=
  requireBranch_keeps (h.showBranch _)

/-- The report keeps the relation. -/
lemma report (hasked : ∀ question, asked question) : Keeps R (health w) := by
  refine h.detect.attempt.bind fun answer => ?_
  match answer with
  | .error cause => exact .pure _
  | .ok false => exact .pure _
  | .ok true =>
    refine h.installation.bind fun installed => ?_
    refine (h.currentBranch (hasked _)).attempt.bind fun branch => ?_
    refine (h.status (hasked _)).attempt.bind fun status => ?_
    refine (h.remotes (hasked _)).attempt.bind fun remotes => ?_
    exact (readSlot_keeps .version).bind fun version => .pure _

/-- The report with the raw listings keeps the relation. -/
lemma overview (hasked : ∀ question, asked question) : Keeps R (overview w) := by
  refine (h.report hasked).bind fun report => ?_
  split
  · refine (h.status (hasked _)).attempt.bind fun status => ?_
    exact (h.remotes (hasked _)).attempt.bind fun remotes => .pure _
  · exact .pure _

/-- Listing the branches keeps the relation. -/
lemma listing (hasked : asked .branch) : Keeps R (listBranches w) := by
  refine h.gate.bind fun _ => ?_
  refine (gitChecked_keeps h.listRefs).bind fun output => ?_
  exact (h.currentName hasked).bind fun current => .pure _

end KeptByLooks

/-- What is kept when some questions are asked is kept when fewer are. -/
lemma KeptByQuestions.mono {R : TraceRelation State} {w : Workspace}
    {asked asked' : Question → Prop} (h : KeptByQuestions R w asked)
    (hasked : ∀ question, asked' question → asked question) : KeptByQuestions R w asked' where
  toKeptByLooks := h.toKeptByLooks.mono hasked
  log := h.log

/-! ## What a reading answers -/

/-- A slot holds after a trace what it held before. -/
def untouched (slot : Slot) : TraceRelation State where
  holds state _ state' := state'.cache.get slot = state.cache.get slot
  nil _ := rfl
  append h h' := h'.trans h

/-- The gate writes to no slot but its own. -/
lemma requireRepository_keeps_untouched (w : Workspace) {slot : Slot} (h : slot ≠ .isRepository) :
    Keeps (untouched slot) (requireRepository w) := by
  have hwrite : ∀ value, Keeps (untouched slot) (writeSlot .isRepository value) := fun _ state =>
    (Cache.get_write state.cache .isRepository slot _).trans (if_neg h)
  have hdetect : Keeps (untouched slot) (detectRepository w) :=
    detectRepository_keeps (fun _ _ => rfl) hwrite fun _ => rfl
  exact hdetect.bind fun _ => .ensure _ _

/-- A reading that is answered says whether the slot was set, and leaves in it what it answers. -/
lemma read_answered {w : Workspace} {question : Question} {state : State} {text : String}
    {cached : Bool} (h : ((question.read w).run state).outcome = .answered (text, cached)) :
    cached = (state.cache.get question.slot).isSome ∧
      ∃ value, ((question.read w).run state).state.cache.get question.slot = some value ∧
        value.asText = text := by
  obtain ⟨⟨⟩, hgate, hrest⟩ := Action.answered_bind_iff.1 h
  have hslot : ((requireRepository w).run state).state.cache.get question.slot =
      state.cache.get question.slot :=
    requireRepository_keeps_untouched w question.slot_ne_isRepository state
  rw [Question.read, cachedRead, Action.state_bind_of_answered hgate]
  generalize ((requireRepository w).run state).state = inside at hrest hslot ⊢
  rw [run_readSlot_bind, hslot] at hrest ⊢
  cases hcontent : state.cache.get question.slot with
  | some value =>
    rw [hcontent] at hrest hslot
    obtain ⟨rfl, rfl⟩ : value.asText = text ∧ true = cached :=
      Prod.mk.inj (Outcome.answered.inj hrest)
    exact ⟨rfl, value, hslot, rfl⟩
  | none =>
    rw [hcontent] at hrest
    obtain ⟨value, hloader, hanswer⟩ := Action.answered_bind_iff.1 hrest
    obtain ⟨rfl, rfl⟩ : value = text ∧ false = cached :=
      Prod.mk.inj (Outcome.answered.inj hanswer)
    refine ⟨rfl, .text value, ?_, rfl⟩
    rw [Action.state_bind_of_answered hloader]
    exact (Cache.get_write _ question.slot question.slot _).trans (if_pos rfl)

end Session

end WorkTree
