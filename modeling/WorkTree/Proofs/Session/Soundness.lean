import WorkTree.Proofs.Session.Gate
import WorkTree.Proofs.Session.Provenance
import WorkTree.Proofs.Text.Line

set_option relaxedAutoImplicit false
set_option autoImplicit false

/-!
# What the cache of a session may hold

Whatever calls are made of a session, and however they end, its cache is sound: each slot holds only
what its command can fill it with, and a question about the repository is answered from the cache
only where the cache also says that there is one. The texts that are kept do not end in a blank, and
every line break is a blank. This is why a listing that is not empty has an entry.

## Main definitions

* `WorkTree.Slot.Holds` — what a slot may hold.
* `WorkTree.Cache.IsSound` — the invariant of the cache.

## Main results

* `WorkTree.Session.perform_isSound` — every call keeps the invariant.
* `WorkTree.Session.cache_isSound` — the invariant holds after any calls, and listings with changes
  or remotes in them are those that are not empty.
-/

namespace WorkTree

/-! ## The invariant -/

/-- What a slot may hold: a truth value; a version as git prints it; or a text that was trimmed at
both ends, or at its end only. -/
inductive Slot.Holds : Slot → Value → Prop where
  | isRepository (b : Bool) : Holds .isRepository (.bool b)
  | version {text : String} (lead : Session.versionLead <+: text.toList)
      (start : Text.NoBlankAtStart text.toList) (ending : Text.NoBlankAtEnd text.toList) :
      Holds .version (.text text)
  | status {text : String} (ending : Text.NoBlankAtEnd text.toList) : Holds .status (.text text)
  | branch {text : String} (start : Text.NoBlankAtStart text.toList)
      (ending : Text.NoBlankAtEnd text.toList) : Holds .branch (.text text)
  | remotes {text : String} (ending : Text.NoBlankAtEnd text.toList) : Holds .remotes (.text text)

/-- A cache is sound: its slots hold what they may, and when the answer to a question about the
repository is kept, then so is it that there is one. -/
structure Cache.IsSound (cache : Cache) : Prop where
  proper : ∀ slot value, cache.get slot = some value → slot.Holds value
  inside : ∀ question : Question, cache.isSet question.slot = true →
    cache.get .isRepository = some (.bool true)

/-- An empty cache is sound. -/
lemma Cache.isSound_empty : Cache.IsSound {} where
  proper slot value h := by cases slot <;> cases h
  inside question h := by cases question <;> cases h

/-! ## Single slots -/

/-- The beginning of a version neither begins with a blank nor ends in one. -/
lemma Session.noBlank_versionLead :
    Text.NoBlankAtStart versionLead ∧ Text.NoBlankAtEnd versionLead := by
  refine ⟨fun c hc => ?_, fun c hc => ?_⟩
  · obtain rfl : 'g' = c := Option.some.inj hc
    decide
  · obtain rfl : 'n' = c := Option.some.inj hc
    decide

/-- The slot of a question may hold what is kept of an output. -/
lemma Question.holds_trim (question : Question) (output : String) :
    question.slot.Holds (.text (question.trim output)) := by
  cases question with
  | status =>
    refine .status ?_
    rw [trim, Text.stripEnd, String.toList_ofList]
    exact Text.noBlankAtEnd_trimEnd output.toList
  | branch =>
    refine .branch ?_ ?_ <;> rw [trim, Text.strip, String.toList_ofList]
    · exact Text.noBlankAtStart_trim output.toList
    · exact Text.noBlankAtEnd_trim output.toList
  | remotes =>
    refine .remotes ?_
    rw [trim, Text.stripEnd, String.toList_ofList]
    exact Text.noBlankAtEnd_trimEnd output.toList

namespace Slot

/-- The slot of a question holds texts. -/
lemma Holds.eq_text {question : Question} {value : Value} (h : question.slot.Holds value) :
    value = .text value.asText := by
  cases question <;> cases h <;> rfl

/-- The slot of a question may hold what it keeps of a completed command. -/
lemma holds_of_reading_question (question : Question) {completion : Completion} {value : Value}
    (h : question.slot.reading completion = some value) : question.slot.Holds value := by
  rw [reading_question] at h
  split at h
  · obtain rfl := Option.some.inj h
    exact question.holds_trim completion.out
  · cases h

/-- A slot may hold what it keeps of a completed command. -/
lemma holds_of_reading {slot : Slot} {completion : Completion} {value : Value}
    (h : slot.reading completion = some value) : slot.Holds value := by
  cases slot with
  | isRepository =>
    obtain rfl := Option.some.inj h
    exact .isRepository _
  | version =>
    rw [reading] at h
    split at h
    · next hread =>
      obtain rfl := Option.some.inj h
      have hlead : Session.versionLead <+: completion.out.toList :=
        List.isPrefixOf_iff_prefix.1 hread.2
      obtain ⟨hstart, hend⟩ := Session.noBlank_versionLead
      refine .version ?_ ?_ ?_ <;> rw [Text.strip, String.toList_ofList]
      · exact Text.isPrefix_trim hstart hend hlead
      · exact Text.noBlankAtStart_trim completion.out.toList
      · exact Text.noBlankAtEnd_trim completion.out.toList
    · cases h
  | status => exact holds_of_reading_question .status h
  | branch => exact holds_of_reading_question .branch h
  | remotes => exact holds_of_reading_question .remotes h

/-- A slot that follows a trace holds what it may if it did before.

**Proof sketch.** Induction on the spawns. Only the slot's own command fills it, and with something
that was read off a completed command (`holds_of_reading`). -/
lemma Follows.holds {slot : Slot} {content content' : Option Value} {spawns : List Spawn}
    (h : slot.Follows content spawns content')
    (hbefore : ∀ value, content = some value → slot.Holds value) :
    ∀ value, content' = some value → slot.Holds value := by
  induction h with
  | nil content => exact hbefore
  | other _ _ ih => exact ih hbefore
  | own _ _ ih =>
    refine ih fun value hkeeps => ?_
    obtain ⟨completion, -, hreading⟩ := Option.bind_eq_some_iff.1 hkeeps
    exact holds_of_reading hreading

end Slot

namespace Session

/-! ## Calls -/

/-- When a call starts the command of a question, the slot of the detection counts as yes as far as
it follows the trace.

**Proof sketch.** Such a call detects the repository first (`perform_detectsFirst`). If the slot
counted as yes, it stays as it is. Otherwise git has affirmed the repository in the course of the
call, which is then what there is to see for the slot. -/
lemma isInside_of_asked {w : Workspace} {call : Call} {state : State} {question : Question}
    {spawn : Spawn} (hmem : spawn ∈ ((perform w call).run state).spawns)
    (hargs : spawn.args = question.words) {content : Option Value}
    (hfollows : Slot.isRepository.Follows (state.cache.get .isRepository)
      ((perform w call).run state).spawns content) :
    ∃ value, content = some value ∧ value.truthy = true := by
  have hother : ∀ slot : Slot, slot ≠ question.slot → spawn.args ≠ slot.words := by
    intro slot hslot heq
    rw [hargs, ← Slot.words_question] at heq
    exact hslot (Slot.words_injective heq).symm
  rcases perform_detectsFirst w call with honly | hfirst
  · have hversion := honly state spawn hmem
    exact absurd hversion (hother .version (by cases question <;> decide))
  obtain ⟨before, after, hspawns⟩ := List.append_of_mem hmem
  have hrest : spawn.args ≠ Slot.isRepository.words :=
    hother .isRepository question.slot_ne_isRepository.symm
  rcases hfirst.exists_affirms hspawns hrest with
    ⟨value, hslot, hyes⟩ | ⟨detection, hbefore, hdetection, completion, hreply, hout⟩
  · rw [hslot] at hfollows
    exact ⟨value, hfollows.of_set.1, hyes⟩
  · have hstarted : detection ∈ ((perform w call).run state).spawns := by
      rw [hspawns]
      exact List.mem_append_left _ hbefore
    obtain ⟨hcompletion, hok⟩ := Reply.success?_eq_some_iff.1 hreply
    have hkeeps : Slot.isRepository.keeps detection.reply = some (.bool true) := by
      have haffirms : affirms completion = true := by
        simp [affirms, hok, hout]
      rw [Slot.keeps, hcompletion, Option.bind_some, Slot.reading, haffirms]
    cases hslot : state.cache.get .isRepository with
    | some value =>
      rw [hslot] at hfollows
      exact absurd hdetection (hfollows.of_set.2 detection hstarted)
    | none =>
      rw [hslot] at hfollows
      have hsighted : Value.bool true ∈ Slot.isRepository.sightings
          ((perform w call).run state).spawns := by
        refine List.mem_filterMap.2 ⟨detection, hstarted, ?_⟩
        rw [if_pos hdetection, hkeeps]
      rw [hfollows.sightings_eq, Option.mem_toList] at hsighted
      exact ⟨.bool true, hsighted, rfl⟩

/-- When the slot of a question is set as far as it follows the trace of a call, the slot of the
detection says that there is a repository.

**Proof sketch.** If the slot was set before, the cache said so, and the slot of the detection stays
as it is. Otherwise the command of the question was started in the call (`isInside_of_asked`). -/
lemma isRepository_of_set {w : Workspace} {call : Call} {state : State} {question : Question}
    (h : state.cache.IsSound) {value : Value} {inside : Option Value}
    (hfollows : question.slot.Follows (state.cache.get question.slot)
      ((perform w call).run state).spawns (some value))
    (hinside : Slot.isRepository.Follows (state.cache.get .isRepository)
      ((perform w call).run state).spawns inside) :
    inside = some (.bool true) := by
  cases hbefore : state.cache.get question.slot with
  | some old =>
    have hrepository : state.cache.get .isRepository = some (.bool true) := by
      refine h.inside question ?_
      rw [Cache.isSet, hbefore, Option.isSome_some]
    rw [hrepository] at hinside
    exact hinside.of_set.1
  | none =>
    rw [hbefore] at hfollows
    have hsighted : value ∈ question.slot.sightings ((perform w call).run state).spawns := by
      rw [hfollows.sightings_eq]
      exact List.mem_singleton_self value
    obtain ⟨spawn, hspawn, hkeeps⟩ := List.mem_filterMap.1 hsighted
    split at hkeeps
    · next hargs =>
      rw [Slot.words_question] at hargs
      obtain ⟨value, rfl, hyes⟩ := isInside_of_asked hspawn hargs hinside
      cases hinside.holds (h.proper .isRepository) value rfl with
      | isRepository b =>
        obtain rfl : b = true := hyes
        rfl
    · cases hkeeps

/-- Every call keeps the cache sound.

**Proof sketch.** A slot follows the trace of the call and is possibly unset in the end
(`perform_follows`), so that it holds what it may. If the slot of a question is set in the end, the
slot of the detection says that there is a repository (`isRepository_of_set`); and that slot is not
unset in the end, since then all are. -/
theorem perform_isSound (w : Workspace) (call : Call) {state : State} (h : state.cache.IsSound) :
    ((perform w call).run state).state.cache.IsSound := by
  refine ⟨fun slot value hvalue => ?_, fun question hset => ?_⟩
  · obtain ⟨content, hfollows, hafter⟩ := perform_follows w call state slot
    rw [hafter] at hvalue
    split at hvalue
    · cases hvalue
    · exact hfollows.holds (h.proper slot) value hvalue
  · obtain ⟨content, hfollows, hafter⟩ := perform_follows w call state question.slot
    obtain ⟨inside, hinside, hdetection⟩ := perform_follows w call state .isRepository
    rw [Cache.isSet, hafter] at hset
    split at hset
    · cases hset
    · next hkept =>
      obtain ⟨value, rfl⟩ := Option.isSome_iff_exists.1 hset
      have hcleared : ¬ (((perform w call).run state).outcome.isAnswered = true ∧
          Slot.isRepository ∈ call.outdates) := by
        rintro ⟨hanswered, hmem⟩
        refine hkept ⟨hanswered, ?_⟩
        cases call with
        | clearCache => cases question <;> decide
        | _ => exact absurd (Call.isRepository_mem_outdates.1 hmem) (by simp [Call.isClear])
      rw [hdetection, if_neg hcleared]
      exact isRepository_of_set h hfollows hinside

/-- The cache is sound after any calls of a session that begins. -/
lemma stateAfter_isSound (w : Workspace) (script : Script) (calls : List Call) :
    (stateAfter w calls (.initial script)).cache.IsSound := by
  induction calls using List.reverseRecOn with
  | nil => exact Cache.isSound_empty
  | append_singleton calls call ih =>
    rw [stateAfter_concat]
    exact perform_isSound w call ih

end Session

/-! ## Listings -/

/-- A text that is not empty and does not end in a blank has a line with its last character, which
is no blank. -/
lemma Text.exists_line_of_noBlankAtEnd {s : List Char} (h : NoBlankAtEnd s) (hne : s ≠ []) :
    ∃ line ∈ lines s, ∃ c ∈ line, isBlank c = false := by
  have hblank : isBlank (s.getLast hne) = false := h _ (List.getLast?_eq_some_getLast hne)
  have hbreak : isLineBreak (s.getLast hne) = false := isLineBreak_of_not_isBlank hblank
  obtain ⟨line, hline, hmem⟩ := exists_line_of_mem (List.getLast_mem hne) hbreak
  exact ⟨line, hline, _, hmem, hblank⟩

/-- A line with a character that is no blank has a first word. -/
lemma Text.firstWord?_ne_none {line : List Char} {c : Char} (hmem : c ∈ line)
    (hblank : isBlank c = false) : firstWord? line ≠ none := by
  have hstart : trimStart line ≠ [] := by
    intro hnil
    have hall := List.dropWhile_eq_nil_iff.1 hnil c hmem
    rw [hblank] at hall
    cases hall
  rw [firstWord?]
  split
  · next hnil => exact absurd hnil hstart
  · exact Option.some_ne_none _

/-- A listing of changes that does not end in a blank has a change exactly when it is not empty. -/
lemma Change.ofStatus_ne_nil_iff {status : String} (h : Text.NoBlankAtEnd status.toList) :
    ofStatus status ≠ [] ↔ status ≠ "" := by
  constructor
  · rintro hchanges rfl
    exact hchanges rfl
  · intro hne
    have hchars : status.toList ≠ [] := by
      simpa using hne
    obtain ⟨line, hline, c, hmem, -⟩ := Text.exists_line_of_noBlankAtEnd h hchars
    have hkept : line ∈ (Text.lines status.toList).filter fun line => !line.isEmpty := by
      refine List.mem_filter.2 ⟨hline, ?_⟩
      simp [List.ne_nil_of_mem hmem]
    exact List.ne_nil_of_mem (List.mem_map_of_mem hkept)

/-- A listing of remotes that does not end in a blank has a name exactly when it is not empty. -/
lemma Remote.namesIn_ne_nil_iff {listing : String} (h : Text.NoBlankAtEnd listing.toList) :
    namesIn listing ≠ [] ↔ listing ≠ "" := by
  constructor
  · rintro hnames rfl
    exact hnames rfl
  · intro hne
    have hchars : listing.toList ≠ [] := by
      simpa using hne
    obtain ⟨line, hline, c, hmem, hblank⟩ := Text.exists_line_of_noBlankAtEnd h hchars
    obtain ⟨word, hword⟩ := Option.ne_none_iff_exists'.1 (Text.firstWord?_ne_none hmem hblank)
    have hfirst : String.ofList word ∈ firstWords listing := by
      refine List.mem_filterMap.2 ⟨line, hline, ?_⟩
      rw [hword, Option.map_some]
    exact List.ne_nil_of_mem (List.mem_eraseDups.2 hfirst)

namespace Session

/-! ## Sound sessions -/

/-- The slot of a question may hold the text that the question is answered with. -/
lemma holds_of_answer {w : Workspace} (question : Question) {state : State}
    (h : state.cache.IsSound) {text : String} {cached : Bool}
    (hanswer : ((perform w question.call).run state).outcome =
      .answered (question.answer text cached)) :
    question.slot.Holds (.text text) := by
  obtain ⟨-, value, hafter, htext⟩ := read_answered (read_of_answer hanswer)
  have hslot : ((perform w question.call).run state).state.cache.get question.slot =
      some value := by
    rw [Question.perform_call, Action.run_map]
    exact hafter
  have hholds : question.slot.Holds value :=
    (perform_isSound w question.call h).proper question.slot value hslot
  rw [← htext, ← hholds.eq_text]
  exact hholds

/-- **The cache is sound.** After any calls of a session that begins, whatever git replied and
however the calls ended, each slot holds only what it may, and a question about the repository has
an answer in the cache only where the cache says that there is a repository. Therefore the answer to
the question for changes says that there are some exactly when it lists one, and the answer to the
question for the remotes names one exactly when its text is not empty.

**Proof sketch.** Every call keeps the cache sound (`perform_isSound`). The text of an answer is
then in its slot, so that it does not end in a blank (`holds_of_answer`). Its last character, if
there is one, is thus no line break either, and stands in a line. -/
theorem cache_isSound (w : Workspace) (script : Script) (calls : List Call) :
    let state := stateAfter w calls (.initial script)
    state.cache.IsSound ∧
      (∀ info, ((perform w .status).run state).outcome = .answered (.status info) →
        (info.hasChanges = true ↔ info.changes ≠ [])) ∧
      ∀ info, ((perform w .remotes).run state).outcome = .answered (.remotes info) →
        (info.names ≠ [] ↔ info.remotes ≠ "") := by
  intro state
  have hsound : state.cache.IsSound := stateAfter_isSound w script calls
  refine ⟨hsound, fun info hanswer => ?_, fun info hanswer => ?_⟩
  · have hholds : Slot.status.Holds (.text info.status) :=
      holds_of_answer .status hsound hanswer
    cases hholds with
    | status ending =>
      rw [StatusInfo.changes, Change.ofStatus_ne_nil_iff ending, StatusInfo.hasChanges,
        decide_eq_true_iff]
  · have hholds : Slot.remotes.Holds (.text info.remotes) :=
      holds_of_answer .remotes hsound hanswer
    cases hholds with
    | remotes ending => exact Remote.namesIn_ne_nil_iff ending

/-- A changed file and a remote that were both asked for: what is kept says that there is a
repository, one change is listed, and the remote is named. -/
theorem cache_isSound_remote :
    let script := Script.succeeding [(Slot.isRepository.words, "true\n"),
      (Slot.status.words, " M a.txt\n"), (Slot.remotes.words, "origin\tup (fetch)\n")]
    let state := stateAfter .plain [.status, .remotes] (.initial script)
    let status : StatusInfo := ⟨" M a.txt", true⟩
    let remotes : RemotesInfo := ⟨"origin\tup (fetch)", true⟩
    (state.cache.isSet .status = true ∧ state.cache.isSet .remotes = true ∧
      state.cache.get .isRepository = some (.bool true)) ∧
    (((perform .plain .status).run state).outcome = .answered (.status status) ∧
      (status.hasChanges = true ↔ status.changes ≠ [])) ∧
    ((perform .plain .remotes).run state).outcome = .answered (.remotes remotes) ∧
      (remotes.names ≠ [] ↔ remotes.remotes ≠ "") := by
  intro script state status remotes
  obtain ⟨hsound, hstatus, hremotes⟩ := cache_isSound .plain script [.status, .remotes]
  have hkept : state.cache.isSet .status = true := by decide
  have hanswer : ((perform .plain .status).run state).outcome = .answered (.status status) := by
    decide
  have hanswer' : ((perform .plain .remotes).run state).outcome =
      .answered (.remotes remotes) := by
    decide
  exact ⟨⟨hkept, by decide, hsound.inside .status hkept⟩,
    ⟨hanswer, hstatus status hanswer⟩, hanswer', hremotes remotes hanswer'⟩

end Session

end WorkTree
