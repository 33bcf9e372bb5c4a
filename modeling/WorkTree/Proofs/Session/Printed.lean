import WorkTree.Proofs.Listing.Remotes
import WorkTree.Proofs.Listing.Status
import WorkTree.Proofs.Session.Soundness
import WorkTree.Proofs.Session.Vetting

set_option relaxedAutoImplicit false
set_option autoImplicit false

/-!
# What git prints is what is answered

A question that is not in the cache is answered with what git prints, trimmed, and then from the
cache with the same text. The gate may give a command of its own first; it takes the reply to the
arguments of that command, and leaves the reply to the question for the question.

## Main definitions

* `WorkTree.Session.awaits` — a trace leaves the next reply to some arguments as it is.
* `WorkTree.Session.Prints` — what git prints when it is asked a question and succeeds.

## Main results

* `WorkTree.Session.read_of_prints` — what git prints is what a question is answered with.
* `WorkTree.Session.status_roundTrip`, `WorkTree.Session.remotes_roundTrip` — the changes and the
  remotes that git prints are the ones that are answered, at once and from the cache.
-/

namespace WorkTree

open WorkTree.Action (Keeps)

/-! ## Replies to other arguments -/

namespace Script

/-- What a script has for some arguments after the replies to some have been replaced. -/
lemma lookup_set (script : Script) (args args' : List String) (replies : List Reply) :
    (script.set args replies).entries.lookup args' =
      if args' = args then some replies else script.entries.lookup args' := by
  -- A table compares its keys by deciding whether they are equal, a look-up entry by entry.
  have hbeq : (List.instBEq : BEq (List String)) = instBEqOfDecidableEq :=
    lawful_beq_subsingleton _ _
  rw [hbeq]
  exact Entries.lookup_put args args' replies script.entries

/-- The next reply to some arguments is the same after others were answered. -/
lemma answer_answer_of_ne (script : Script) {args args' : List String} (h : args ≠ args') :
    ((script.answer args').2.answer args).1 = (script.answer args).1 := by
  have hset : ∀ replies, ((script.set args' replies).answer args).1 = (script.answer args).1 := by
    intro replies
    unfold answer
    rw [lookup_set, if_neg h]
    split <;> rfl
  rw [answer.eq_def script args']
  split
  · exact hset _
  · rfl
  · rfl
  · rfl

end Script

namespace Session

/-- A trace leaves the next reply to some arguments as it is. -/
def awaits (args : List String) : TraceRelation State where
  holds state _ state' := (state'.script.answer args).1 = (state.script.answer args).1
  nil _ := rfl
  append h h' := h'.trans h

/-- A command takes no reply to arguments of others. -/
lemma git_keeps_awaits (w : Workspace) {command : Command} {args : List String}
    (h : ¬ command.Names args) : Keeps (awaits args) (git w command) := by
  intro state
  change (((w.give command).run state.script).state.answer args).1 = _
  cases w.give_run command state.script with
  | never _ hstate _ => rw [hstate]
  | once spawn _ hnames hreply _ =>
    have hne : args ≠ spawn.args := fun heq => h (heq ▸ hnames)
    have hstate : ((w.give command).run state.script).state =
        (state.script.answer spawn.args).2 := by
      rw [hreply]
    rw [hstate, Script.answer_answer_of_ne state.script hne]

/-- The gate takes no reply to a question. -/
lemma requireRepository_keeps_awaits (w : Workspace) (question : Question) :
    Keeps (awaits question.words) (requireRepository w) := by
  have hgit : Keeps (awaits question.words) (git w .insideWorkTree) :=
    git_keeps_awaits w fun hnames => by
      have hcommand := Slot.command_of_names_question hnames
      cases question <;> cases hcommand
  have hdetect : Keeps (awaits question.words) (detectRepository w) :=
    detectRepository_keeps (fun _ _ => rfl) (fun _ _ => rfl) hgit
  exact hdetect.bind fun _ => .ensure _ _

/-! ## Readings -/

/-- Git, asked a question in some state, succeeds and prints a text. -/
def Prints (w : Workspace) (question : Question) (state : State) (text : String) : Prop :=
  ∃ completion, ((git w question.command).run state).outcome = .answered completion ∧
    completion.ok = true ∧ completion.out = text

/-- What git prints depends on the next reply alone. -/
lemma Prints.of_awaits {w : Workspace} {question : Question} {state state' : State} {text : String}
    (h : Prints w question state text)
    (hawaits : (state'.script.answer question.words).1 = (state.script.answer question.words).1) :
    Prints w question state' text := by
  have hgive : w.give question.command = w.runner.run w.host question.words true := by
    cases question <;> exact Runner.withTexts_map _ _ _ _ _
  obtain ⟨completion, hrun, hok, hout⟩ := h
  refine ⟨completion, ?_, hok, hout⟩
  rw [git_outcome, hgive] at hrun ⊢
  rw [Runner.run_outcome_congr hawaits, hrun]

/-- In a repository, reading a question does not lead out of it. -/
lemma read_keeps_isInside (w : Workspace) (question : Question) :
    Keeps (.invariant State.IsInside) (question.read w) := by
  refine read_keeps ?_ ?_ fun _ h => h
  · intro state h
    rw [requireRepository_of_isInside h w]
    exact h
  · rintro value state ⟨known, hslot, hyes⟩
    refine ⟨known, ?_, hyes⟩
    exact (Cache.get_write _ question.slot .isRepository _).trans
      ((if_neg question.slot_ne_isRepository.symm).trans hslot)

/-- A reading that is answered leaves the session in a repository.

**Proof sketch.** Past the gate the session is in a repository, and reading the question there,
where the gate is open, comes to the same. -/
lemma isInside_of_read {w : Workspace} {question : Question} {state : State} {text : String}
    {cached : Bool} (h : ((question.read w).run state).outcome = .answered (text, cached)) :
    ((question.read w).run state).state.IsInside := by
  obtain ⟨⟨⟩, hgate, -⟩ := Action.answered_bind_iff.1 h
  have hinside := isInside_of_requireRepository hgate
  have hread := read_keeps_isInside w question _ hinside
  rw [Question.read, cachedRead,
    Action.run_bind_of_still (requireRepository_of_isInside hinside w)] at hread
  rw [Question.read, cachedRead, Action.state_bind_of_answered hgate]
  exact hread

/-- A reading that is answered is answered again from the cache, and the session stays as it is. -/
lemma reread_of_answered {w : Workspace} {question : Question} {state : State} {text : String}
    {cached : Bool} (h : ((question.read w).run state).outcome = .answered (text, cached)) :
    (question.read w).run ((question.read w).run state).state =
      { outcome := .answered (text, true), state := ((question.read w).run state).state } := by
  obtain ⟨-, value, hslot, rfl⟩ := read_answered h
  exact read_of_slot (isInside_of_read h) w hslot

/-- **What git prints is what a question is answered with**, trimmed, when the gate is open and the
question is not in the cache.

**Proof sketch.** The gate is open (`requireRepository_of_admits`), writes to no slot but its own
and leaves the reply to the question where it is (`requireRepository_keeps_awaits`), so that git
prints the same behind it (`Prints.of_awaits`). -/
lemma read_of_prints {w : Workspace} {question : Question} {state : State} {text : String}
    (hgate : Admits w state) (hslot : state.cache.get question.slot = none)
    (hprints : Prints w question state text) :
    ((question.read w).run state).outcome = .answered (question.trim text, false) := by
  have hunset : ((requireRepository w).run state).state.cache.get question.slot = none :=
    (requireRepository_keeps_untouched w question.slot_ne_isRepository state).trans hslot
  obtain ⟨completion, hrun, hok, rfl⟩ :=
    hprints.of_awaits (requireRepository_keeps_awaits w question state)
  have hloader : ((question.loader w).run ((requireRepository w).run state).state).outcome =
      .answered (question.trim completion.out) := by
    rw [question.loader_eq, Action.run_bind_orFail, hrun]
    simp [Outcome.judged, Question.accept, hok]
  rw [Question.read, cachedRead, Action.run_bind_of_answered (requireRepository_of_admits hgate),
    run_readSlot_bind, hunset]
  dsimp only
  rw [Action.run_bind_of_answered hloader]
  rfl

/-- The call of a question is answered with what git prints, trimmed, and then from the cache with
the same text: no command is started, and the session stays as it is. -/
lemma perform_of_prints {w : Workspace} (question : Question) {state : State} {text : String}
    (hgate : Admits w state) (hslot : state.cache.get question.slot = none)
    (hprints : Prints w question state text) :
    ((perform w question.call).run state).outcome =
        .answered (question.answer (question.trim text) false) ∧
      (perform w question.call).run ((perform w question.call).run state).state =
        { outcome := .answered (question.answer (question.trim text) true)
          state := ((perform w question.call).run state).state } := by
  have hread := read_of_prints hgate hslot hprints
  have hreread := reread_of_answered hread
  rw [Question.perform_call, Action.run_map, Action.run_map, hread, hreread]
  exact ⟨rfl, rfl⟩

/-! ## Changes -/

/-- **The changes that git prints are the ones that are answered.** When the gate is open, the
changes are not in the cache and git succeeds in printing some entries that are in order, the call
is answered with these entries, in order, and there are changes exactly when there is an entry. The
next call is answered from the cache with the same entries, and starts nothing.

**Proof sketch.** What is kept is what git prints without the blanks at its end
(`perform_of_prints`), and the entries are read back from that (`Change.ofStatus_stripEnd_printed`);
a text that does not end in a blank has an entry unless it is empty
(`Change.ofStatus_ne_nil_iff`). -/
theorem status_roundTrip {w : Workspace} {state : State} {entries : List Change.Printed}
    (hgate : Admits w state) (hslot : state.cache.get .status = none)
    (hentries : ∀ entry ∈ entries, entry.IsProper)
    (hprints : Prints w .status state (Change.printed entries)) :
    let r := (perform w .status).run state
    let again := (perform w .status).run r.state
    (∃ info, r.outcome = .answered (.status info) ∧ info.cached = false ∧
      info.changes = entries.map Change.Printed.change ∧
      (info.hasChanges = true ↔ entries ≠ [])) ∧
    ∃ info, again.outcome = .answered (.status info) ∧ info.cached = true ∧
      info.changes = entries.map Change.Printed.change ∧ again.spawns = [] := by
  intro r again
  obtain ⟨hfirst, hsecond⟩ := perform_of_prints .status hgate hslot hprints
  have hchanges := Change.ofStatus_stripEnd_printed hentries
  refine ⟨⟨_, hfirst, rfl, hchanges, ?_⟩, _, congrArg Run.outcome hsecond, rfl, hchanges,
    congrArg Run.spawns hsecond⟩
  have hending : Text.NoBlankAtEnd (Text.stripEnd (Change.printed entries)).toList := by
    rw [Text.stripEnd, String.toList_ofList]
    exact Text.noBlankAtEnd_trimEnd _
  have hne := Change.ofStatus_ne_nil_iff hending
  rw [hchanges, Ne, List.map_eq_nil_iff] at hne
  exact decide_eq_true_iff.trans hne.symm

/-- Three changed files, one of them renamed: the first column of the first line is blank, and paths
hold spaces. -/
theorem status_roundTrip_renamed :
    let entries : List Change.Printed :=
      [⟨' ', 'M', "a b.txt"⟩, ⟨'R', ' ', "x -> é"⟩, ⟨'?', '?', " new/"⟩]
    let state := State.initial (Script.succeeding [(Slot.isRepository.words, "true\n"),
      (Slot.status.words, " M a b.txt\nR  x -> é\n??  new/\n")])
    let r := (perform .plain .status).run state
    let again := (perform .plain .status).run r.state
    (Admits .plain state ∧ (∀ entry ∈ entries, entry.IsProper) ∧
      Prints .plain .status state (Change.printed entries)) ∧
    (∃ info, r.outcome = .answered (.status info) ∧ info.cached = false ∧
      info.changes = entries.map Change.Printed.change ∧
      (info.hasChanges = true ↔ entries ≠ [])) ∧
    (∃ info, again.outcome = .answered (.status info) ∧ info.cached = true ∧
      info.changes = entries.map Change.Printed.change ∧ again.spawns = []) ∧
    entries.map Change.Printed.change = [⟨"M", "a b.txt"⟩, ⟨"R", "x -> é"⟩, ⟨"??", " new/"⟩] := by
  intro entries state r again
  have hgate : Admits .plain state := .inr ⟨rfl, _, rfl, by decide⟩
  have hentries : ∀ entry ∈ entries, entry.IsProper := by decide
  have hprints : Prints .plain .status state (Change.printed entries) :=
    ⟨_, rfl, by decide, by decide⟩
  obtain ⟨hfirst, hsecond⟩ := status_roundTrip hgate rfl hentries hprints
  exact ⟨⟨hgate, hentries, hprints⟩, hfirst, hsecond, by decide⟩

/-! ## Remotes -/

/-- **The remotes that git prints are the ones that are answered**, each name once, in the order in
which they were printed, at once and then from the cache. -/
theorem remotes_roundTrip {w : Workspace} {state : State} {remotes : List (String × String)}
    (hgate : Admits w state) (hslot : state.cache.get .remotes = none)
    (hremotes : ∀ remote ∈ remotes, Remote.IsProper remote)
    (hprints : Prints w .remotes state (Remote.listing remotes)) :
    let r := (perform w .remotes).run state
    let again := (perform w .remotes).run r.state
    (∃ info, r.outcome = .answered (.remotes info) ∧ info.cached = false ∧
      info.names = (remotes.map Prod.fst).eraseDups) ∧
    ∃ info, again.outcome = .answered (.remotes info) ∧ info.cached = true ∧
      info.names = (remotes.map Prod.fst).eraseDups ∧ again.spawns = [] := by
  intro r again
  obtain ⟨hfirst, hsecond⟩ := perform_of_prints .remotes hgate hslot hprints
  have hnames := Remote.namesIn_of_lines hremotes (Remote.lines_listing hremotes).2
  exact ⟨⟨_, hfirst, rfl, hnames⟩, _, congrArg Run.outcome hsecond, rfl, hnames,
    congrArg Run.spawns hsecond⟩

end Session

end WorkTree
