import Mathlib.Data.List.DropRight
import Mathlib.Tactic.Lemma
import WorkTree.Text.Blank
import WorkTree.Text.Line

set_option relaxedAutoImplicit false
set_option autoImplicit false

/-!
# Lines and trimming

A text that ends in a line feed is cut into lines independently of what follows. A line holds no
line break, and a text without one that is followed by a line feed is a single line; what is no line
break stands in a line. Trimming leaves nothing to be trimmed.

## Main definitions

* `WorkTree.Text.NoBlankAtStart`, `WorkTree.Text.NoBlankAtEnd` — the texts without a blank at one of
  their ends.

## Main results

* `WorkTree.Text.lines_append_lineFeed` — the lines before a line feed, and those after it.
* `WorkTree.Text.lines_of_unbroken` — a text without a break is one line.
* `WorkTree.Text.lines_flatMap_lineFeed` — texts without a break, each with a line feed, are the
  lines.
* `WorkTree.Text.lines_trimEnd_flatMap_lineFeed` — the same when the last line feed is trimmed.
* `WorkTree.Text.isLineBreak_of_mem_lines` — no line holds a line break.
* `WorkTree.Text.exists_line_of_mem` — a character that is no break stands in a line.
* `WorkTree.Text.trim_trim` — trimming twice is trimming once.
-/

namespace WorkTree.Text

/-! ## Lines -/

/-- A character is a break or belongs to the first line, unless it is a carriage return that makes a
break with the line feed behind it. -/
lemma lines_cons {c : Char} {s : List Char} (h : c = '\r' → ∀ rest, s ≠ '\n' :: rest) :
    lines (c :: s) = if isLineBreak c then [] :: lines s else consToHead c (lines s) := by
  rw [lines]
  exact fun rest hc hs => h hc rest hs

/-- A character goes to the first of some lines when there is one. -/
lemma consToHead_append (c : Char) {first : List (List Char)} (h : first ≠ [])
    (last : List (List Char)) : consToHead c (first ++ last) = consToHead c first ++ last := by
  cases first with
  | nil => exact absurd rfl h
  | cons line rest => rfl

/-- A text that ends in a line feed has a line. -/
lemma lines_lineFeed_ne_nil {s : List Char} (h : '\r' ∉ s) : lines (s ++ ['\n']) ≠ [] := by
  cases s with
  | nil => decide
  | cons c s =>
    rw [List.cons_append, lines_cons fun hc => absurd List.mem_cons_self (hc ▸ h)]
    split
    · exact List.cons_ne_nil _ _
    · cases lines (s ++ ['\n']) <;> exact List.cons_ne_nil _ _

/-- **Lines split at a line feed.** What stands behind a line feed has no bearing on the lines
before it. A carriage return before the line feed would make one break with it. -/
lemma lines_append_lineFeed {s : List Char} (h : '\r' ∉ s) (rest : List Char) :
    lines (s ++ '\n' :: rest) = lines (s ++ ['\n']) ++ lines rest := by
  induction s with
  | nil => rfl
  | cons c s ih =>
    have hc : c ≠ '\r' := fun heq => h (heq ▸ List.mem_cons_self)
    have hs : '\r' ∉ s := fun hmem => h (List.mem_cons_of_mem _ hmem)
    rw [List.cons_append, List.cons_append, lines_cons fun heq => absurd heq hc,
      lines_cons fun heq => absurd heq hc, ih hs]
    split
    · rfl
    · exact consToHead_append c (lines_lineFeed_ne_nil hs) _

/-- The carriage return is a line break. -/
lemma isLineBreak_carriageReturn : isLineBreak '\r' = true := by
  decide

/-- A text without a break holds no carriage return. -/
lemma carriageReturn_not_mem {s : List Char} (h : ∀ c ∈ s, isLineBreak c = false) : '\r' ∉ s := by
  intro hmem
  have hbreak := h '\r' hmem
  rw [isLineBreak_carriageReturn] at hbreak
  cases hbreak

/-- A text without a break that is followed by a line feed is one line. -/
lemma lines_of_unbroken {s : List Char} (h : ∀ c ∈ s, isLineBreak c = false) :
    lines (s ++ ['\n']) = [s] := by
  induction s with
  | nil => rfl
  | cons c s ih =>
    have hbreak : isLineBreak c = false := h c List.mem_cons_self
    have hc : c ≠ '\r' := fun heq => carriageReturn_not_mem h (heq ▸ List.mem_cons_self)
    rw [List.cons_append, lines_cons fun heq => absurd heq hc, if_neg (by simp [hbreak]),
      ih fun d hd => h d (List.mem_cons_of_mem _ hd)]
    rfl

/-- A character put in front of the first line stands in that line, and the others are as they
were. -/
lemma mem_consToHead {c : Char} {lines : List (List Char)} {line : List Char}
    (h : line ∈ consToHead c lines) :
    (∃ rest, line = c :: rest ∧ (rest = [] ∨ rest ∈ lines)) ∨ line ∈ lines := by
  cases lines with
  | nil =>
    obtain rfl := List.mem_singleton.1 h
    exact .inl ⟨[], rfl, .inl rfl⟩
  | cons first rest =>
    rcases List.mem_cons.1 h with rfl | h
    · exact .inl ⟨first, rfl, .inr List.mem_cons_self⟩
    · exact .inr (List.mem_cons_of_mem _ h)

/-- No line holds a line break. -/
lemma isLineBreak_of_mem_lines {s line : List Char} (h : line ∈ lines s) :
    ∀ c ∈ line, isLineBreak c = false := by
  induction s using lines.induct generalizing line with
  | case1 => cases h
  | case2 rest ih =>
    rw [lines] at h
    rcases List.mem_cons.1 h with rfl | h
    · simp
    · exact ih h
  | case3 c rest hcrlf hbreak ih =>
    rw [lines_cons fun hc rest' => hcrlf rest' hc, if_pos hbreak] at h
    rcases List.mem_cons.1 h with rfl | h
    · simp
    · exact ih h
  | case4 c rest hcrlf hbreak ih =>
    rw [lines_cons fun hc rest' => hcrlf rest' hc, if_neg hbreak] at h
    rcases mem_consToHead h with ⟨first, rfl, hfirst⟩ | h
    · rw [Bool.not_eq_true] at hbreak
      refine List.forall_mem_cons.2 ⟨hbreak, ?_⟩
      rcases hfirst with rfl | hfirst
      · simp
      · exact ih hfirst
    · exact ih h

/-- A character stands in one of some lines with another one put in front of the first line if it
stood in one of them, or is the one that is put in front. -/
lemma exists_mem_consToHead {c d : Char} {lines : List (List Char)}
    (h : c = d ∨ ∃ line ∈ lines, c ∈ line) : ∃ line ∈ consToHead d lines, c ∈ line := by
  cases lines with
  | nil =>
    obtain rfl : c = d := by simpa using h
    exact ⟨[c], List.mem_singleton_self _, List.mem_singleton_self c⟩
  | cons first rest =>
    rcases h with rfl | ⟨line, hline, hmem⟩
    · exact ⟨c :: first, List.mem_cons_self, List.mem_cons_self⟩
    · rcases List.mem_cons.1 hline with rfl | hline
      · exact ⟨d :: line, List.mem_cons_self, List.mem_cons_of_mem _ hmem⟩
      · exact ⟨line, List.mem_cons_of_mem _ hline, hmem⟩

/-- A character that is no break stands in a line. -/
lemma exists_line_of_mem {s : List Char} {c : Char} (h : c ∈ s) (hbreak : isLineBreak c = false) :
    ∃ line ∈ lines s, c ∈ line := by
  have hne : ∀ d, isLineBreak d = true → c ≠ d := by
    rintro d hd rfl
    rw [hd] at hbreak
    cases hbreak
  induction s using lines.induct with
  | case1 => cases h
  | case2 rest ih =>
    rw [lines]
    have hrest : c ∈ rest := by
      simpa [hne '\r' (by decide), hne '\n' (by decide)] using h
    obtain ⟨line, hline, hmem⟩ := ih hrest
    exact ⟨line, List.mem_cons_of_mem _ hline, hmem⟩
  | case3 d rest hcrlf hd ih =>
    rw [lines_cons fun hc rest' => hcrlf rest' hc, if_pos hd]
    obtain ⟨line, hline, hmem⟩ := ih ((List.mem_cons.1 h).resolve_left (hne d hd))
    exact ⟨line, List.mem_cons_of_mem _ hline, hmem⟩
  | case4 d rest hcrlf hd ih =>
    rw [lines_cons fun hc rest' => hcrlf rest' hc, if_neg hd]
    exact exists_mem_consToHead ((List.mem_cons.1 h).imp_right ih)

/-- Texts without a break, each followed by a line feed, are the first lines. -/
lemma lines_flatMap_lineFeed_append {ss : List (List Char)}
    (h : ∀ s ∈ ss, ∀ c ∈ s, isLineBreak c = false) (rest : List Char) :
    lines ((ss.flatMap fun s => s ++ ['\n']) ++ rest) = ss ++ lines rest := by
  induction ss with
  | nil => rfl
  | cons s ss ih =>
    have hs := h s List.mem_cons_self
    rw [List.flatMap_cons, List.append_assoc, List.append_assoc, List.singleton_append,
      lines_append_lineFeed (carriageReturn_not_mem hs), lines_of_unbroken hs,
      ih fun s' hmem => h s' (List.mem_cons_of_mem _ hmem)]
    rfl

/-- Texts without a break, each followed by a line feed, are the lines. -/
lemma lines_flatMap_lineFeed {ss : List (List Char)}
    (h : ∀ s ∈ ss, ∀ c ∈ s, isLineBreak c = false) :
    lines (ss.flatMap fun s => s ++ ['\n']) = ss := by
  simpa [lines] using lines_flatMap_lineFeed_append h []

/-- A text without a break is one line, also when no line feed follows. -/
lemma lines_of_unbroken_end {s : List Char} (h : ∀ c ∈ s, isLineBreak c = false) (hne : s ≠ []) :
    lines s = [s] := by
  induction s with
  | nil => exact absurd rfl hne
  | cons c s ih =>
    have hbreak : isLineBreak c = false := h c List.mem_cons_self
    have hc : c ≠ '\r' := fun heq => carriageReturn_not_mem h (heq ▸ List.mem_cons_self)
    rw [lines_cons fun heq => absurd heq hc, if_neg (by simp [hbreak])]
    by_cases hs : s = []
    · rw [hs]
      rfl
    · rw [ih (fun d hd => h d (List.mem_cons_of_mem _ hd)) hs]
      rfl

/-! ## Trimming -/

/-- Every line break is a blank. -/
lemma isBlank_of_isLineBreak {c : Char} (h : isLineBreak c = true) : isBlank c = true := by
  simp only [isLineBreak, isBlank, isWhiteSpace, Bool.or_eq_true, Bool.and_eq_true,
    decide_eq_true_eq, beq_iff_eq] at h ⊢
  omega

/-- A character that is not blank is no line break. -/
lemma isLineBreak_of_not_isBlank {c : Char} (h : isBlank c = false) : isLineBreak c = false := by
  rw [← Bool.not_eq_true] at h ⊢
  exact fun hbreak => h (isBlank_of_isLineBreak hbreak)

/-- What has no blank in it consists of characters that are none. -/
lemma isBlank_eq_false_of_any {s : List Char} (h : s.any isBlank = false) :
    ∀ c ∈ s, isBlank c = false :=
  fun c hc => Bool.eq_false_iff.2 (List.any_eq_false.1 h c hc)

/-- A text does not begin with a blank. -/
def NoBlankAtStart (s : List Char) : Prop :=
  ∀ c, s.head? = some c → isBlank c = false

/-- A text does not end in a blank. -/
def NoBlankAtEnd (s : List Char) : Prop :=
  ∀ c, s.getLast? = some c → isBlank c = false

instance decidableNoBlankAtEnd (s : List Char) : Decidable (NoBlankAtEnd s) :=
  decidable_of_iff (s.getLast?.all fun c => !isBlank c) (by
    simp only [Option.all_eq_true, Bool.not_eq_true']
    exact Iff.rfl)

/-- A text that does not begin with a blank has nothing to be trimmed at its beginning. -/
lemma trimStart_of_head {s : List Char} (h : NoBlankAtStart s) : trimStart s = s := by
  cases s with
  | nil => rfl
  | cons c s => simp [trimStart, h c rfl]

/-- A text that was trimmed at its beginning does not begin with a blank. -/
lemma isBlank_of_head_trimStart {s : List Char} {c : Char} (h : (trimStart s).head? = some c) :
    isBlank c = false := by
  have hnot := List.head?_dropWhile_not isBlank s
  rw [show s.dropWhile isBlank = trimStart s from rfl, h] at hnot
  exact hnot

/-- Trimming at the end leaves a part of the text from its beginning. -/
lemma trimEnd_isPrefix (s : List Char) : trimEnd s <+: s :=
  List.rdropWhile_prefix isBlank s

/-- Trimming leaves a part of the text. -/
lemma mem_of_mem_trim {s : List Char} {c : Char} (h : c ∈ trim s) : c ∈ s :=
  (List.dropWhile_suffix isBlank).subset ((trimEnd_isPrefix _).subset h)

/-- What was trimmed at its end does not end in a blank. -/
lemma noBlankAtEnd_trimEnd (s : List Char) : NoBlankAtEnd (trimEnd s) := by
  intro c hc
  have hne : trimEnd s ≠ [] := by
    rintro hnil
    rw [hnil] at hc
    cases hc
  rw [List.getLast?_eq_some_getLast hne] at hc
  obtain rfl := Option.some.inj hc
  exact Bool.not_eq_true _ ▸ List.rdropWhile_last_not isBlank s hne

/-- What was trimmed does not begin with a blank. -/
lemma noBlankAtStart_trim (s : List Char) : NoBlankAtStart (trim s) := by
  intro c hc
  refine isBlank_of_head_trimStart (s := s) ?_
  obtain ⟨rest, hrest⟩ := trimEnd_isPrefix (trimStart s)
  rw [← hrest]
  change (trim s ++ rest).head? = some c
  rw [List.head?_append, hc]
  rfl

/-- What was trimmed does not end in a blank. -/
lemma noBlankAtEnd_trim (s : List Char) : NoBlankAtEnd (trim s) :=
  noBlankAtEnd_trimEnd (trimStart s)

/-- A text that does not end in a blank has nothing to be trimmed at its end. -/
lemma trimEnd_of_last {s : List Char} (h : NoBlankAtEnd s) : trimEnd s = s := by
  refine (List.rdropWhile_eq_self_iff (p := isBlank)).2 fun hne => ?_
  simp [h _ (List.getLast?_eq_some_getLast hne)]

/-- A blank at the end is trimmed with what is to be trimmed before it. -/
lemma trimEnd_concat_blank (s : List Char) {c : Char} (h : isBlank c = true) :
    trimEnd (s ++ [c]) = trimEnd s :=
  List.rdropWhile_concat_pos isBlank s c h

/-- Texts without a break, each followed by a line feed, are the lines also when the blanks at the
end are trimmed, unless the last text would lose something.

**Proof sketch.** Only the line feed behind the last text is trimmed. The other texts are the first
lines, and the last text is a line without its line feed. -/
lemma lines_trimEnd_flatMap_lineFeed {ss : List (List Char)}
    (h : ∀ s ∈ ss, ∀ c ∈ s, isLineBreak c = false)
    (hlast : ∀ s, ss.getLast? = some s → s ≠ [] ∧ NoBlankAtEnd s) :
    lines (trimEnd (ss.flatMap fun s => s ++ ['\n'])) = ss := by
  induction ss using List.reverseRecOn with
  | nil => rfl
  | append_singleton ss s _ =>
    obtain ⟨hne, hend⟩ := hlast s List.getLast?_concat
    have hs := h s (List.mem_append_right ss (List.mem_singleton_self s))
    have hkept : NoBlankAtEnd ((ss.flatMap fun s => s ++ ['\n']) ++ s) := by
      intro c hc
      rw [List.getLast?_append_of_ne_nil _ hne] at hc
      exact hend c hc
    rw [List.flatMap_append, List.flatMap_singleton, ← List.append_assoc,
      trimEnd_concat_blank _ (by decide), trimEnd_of_last hkept,
      lines_flatMap_lineFeed_append fun s' hmem => h s' (List.mem_append_left _ hmem),
      lines_of_unbroken_end hs hne]

/-- A text without a blank at its ends is left as it is by trimming. -/
lemma trim_of_ends {s : List Char} (hstart : NoBlankAtStart s) (hend : NoBlankAtEnd s) :
    trim s = s := by
  rw [trim, trimStart_of_head hstart, trimEnd_of_last hend]

/-- Trimming at the end leaves what the text begins with, unless that ends in a blank. -/
lemma isPrefix_trimEnd {lead s : List Char} (hend : NoBlankAtEnd lead) (h : lead <+: s) :
    lead <+: trimEnd s := by
  obtain ⟨rest, rfl⟩ := h
  induction rest using List.reverseRecOn with
  | nil => simp only [List.append_nil, trimEnd_of_last hend, List.prefix_rfl]
  | append_singleton rest c ih =>
    rw [← List.append_assoc]
    change lead <+: (lead ++ rest ++ [c]).rdropWhile isBlank
    rw [List.rdropWhile_concat]
    split
    · exact ih
    · rw [List.append_assoc]
      exact List.prefix_append _ _

/-- Trimming leaves what the text begins with, unless that begins with a blank or ends in one. -/
lemma isPrefix_trim {lead s : List Char} (hstart : NoBlankAtStart lead) (hend : NoBlankAtEnd lead)
    (h : lead <+: s) : lead <+: trim s := by
  have hs : lead = [] ∨ trimStart s = s := by
    obtain ⟨rest, rfl⟩ := h
    cases lead with
    | nil => exact .inl rfl
    | cons c lead => exact .inr (trimStart_of_head hstart)
  rcases hs with rfl | hs
  · exact List.nil_prefix
  · rw [trim, hs]
    exact isPrefix_trimEnd hend h

/-- A text without blanks is left as it is by trimming. -/
lemma trim_of_unblanked {s : List Char} (h : ∀ c ∈ s, isBlank c = false) : trim s = s :=
  trim_of_ends (fun c hc => h c (List.mem_of_mem_head? hc))
    fun c hc => h c (List.mem_of_getLast? hc)

/-- Trimming twice is trimming once. -/
@[simp]
lemma trim_trim (s : List Char) : trim (trim s) = trim s :=
  trim_of_ends (noBlankAtStart_trim s) (noBlankAtEnd_trim s)

/-- The same for texts. -/
@[simp]
lemma strip_strip (s : String) : strip (strip s) = strip s := by
  simp [strip]

end WorkTree.Text
