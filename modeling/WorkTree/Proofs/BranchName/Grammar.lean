import WorkTree.BranchName.Grammar
import WorkTree.Proofs.Listing.Merged
import WorkTree.Proofs.Path

set_option relaxedAutoImplicit false
set_option autoImplicit false

/-!
# The format of names and their grammar

The format of branch names is checked on whole texts: characters and pairs of characters are looked
for anywhere, slashes at the ends and next to each other, and only the last check cuts a text at its
slashes. The grammar speaks of components. The two agree because most checks are *local*: a slash
between two texts neither makes them find something nor keeps it from them, so that they find
something in a text exactly when they find it in a component. The checks that are not local look at
the ends of a text, or for one of two texts as a whole, and the grammar has them as they are.

## Main definitions

* `WorkTree.BranchName.IsLocal` — the tests that a slash between two texts has no bearing on.
* `WorkTree.BranchName.isFaulty` — the local checks of the format.
* `WorkTree.BranchName.IsUsable` — the names that git takes for branches on its command line.

## Main results

* `WorkTree.BranchName.IsLocal.eq_any` — a local test finds what it finds in the components.
* `WorkTree.BranchName.breaksFormat_iff` — a text that is not empty has the format of names exactly
  when it is a name of the grammar.
* `WorkTree.BranchName.validate_grammar` — a name is valid exactly when it is in the grammar and not
  too long, and the errors are the rules that it breaks.
-/

namespace WorkTree.BranchName

/-! ## Local tests -/

/-- A test is local when it finds something in two texts with a slash between them exactly when it
finds something in one of the two. -/
def IsLocal (p : List Char → Bool) : Prop :=
  ∀ s t, p (s ++ '/' :: t) = (p s || p t)

section Local

variable {p q : List Char → Bool}

/-- **A local test finds what it finds in the components** of a text. -/
lemma IsLocal.ofComponents (h : IsLocal p) {components : List (List Char)}
    (hne : components ≠ []) : p (ofComponents components) = components.any p := by
  induction components with
  | nil => exact absurd rfl hne
  | cons component rest ih =>
    by_cases hrest : rest = []
    · subst hrest
      rw [BranchName.ofComponents, List.intercalate_singleton, List.any_cons, List.any_nil,
        Bool.or_false]
    · have hrec := ih hrest
      rw [BranchName.ofComponents] at hrec ⊢
      rw [List.intercalate_cons_of_ne_nil hrest, List.append_assoc, List.singleton_append, h,
        hrec, List.any_cons]

/-- The same for the components that a text is cut into. -/
lemma IsLocal.eq_any (h : IsLocal p) (s : List Char) : p s = (s.splitOn '/').any p := by
  have hs : BranchName.ofComponents (s.splitOn '/') = s := List.intercalate_splitOn '/'
  rw [← h.ofComponents (List.splitOn_ne_nil '/' s), hs]

/-- Two local tests are local together. -/
lemma IsLocal.or (hp : IsLocal p) (hq : IsLocal q) : IsLocal fun s => p s || q s := by
  intro s t
  simp only [hp s t, hq s t]
  ac_rfl

/-- Looking for a character other than the slash is local. -/
lemma isLocal_any {p : Char → Bool} (h : p '/' = false) : IsLocal (List.any · p) := by
  intro s t
  simp only [List.any_append, List.any_cons, h, Bool.false_or]

/-- Looking at the components one by one is local. -/
lemma isLocal_anyComponent (p : List Char → Bool) :
    IsLocal fun s => (s.splitOn '/').any p := by
  intro s t
  simp only [List.splitOn_append_cons_self, List.any_append]

end Local

/-! ## Pairs of characters -/

/-- A pair stands at the beginning of a text or in what follows the first character. -/
lemma hasPair_cons (a b c : Char) (s : List Char) :
    hasPair a b (c :: s) = ((c == a && s.head? == some b) || hasPair a b s) := by
  cases s with
  | nil => simp [hasPair]
  | cons d s => simp [hasPair]

/-- Where a pair stands in two texts with a character between them: in one of the two, or at the
seam. -/
lemma hasPair_append_cons (a b c : Char) (s t : List Char) :
    hasPair a b (s ++ c :: t) =
      (hasPair a b s || (s.getLast? == some a && c == b) || (c == a && t.head? == some b) ||
        hasPair a b t) := by
  induction s with
  | nil => simp [hasPair_cons, hasPair]
  | cons d s ih =>
    rw [List.cons_append, hasPair_cons, ih, hasPair_cons]
    cases s with
    | nil => simp [hasPair, Bool.or_assoc]
    | cons e s => simp [Bool.or_assoc]

/-- A pair stands in a text when the text of the two characters is a part of it. -/
lemma hasPair_iff {a b : Char} {s : List Char} : hasPair a b s = true ↔ [a, b] <:+: s := by
  induction s with
  | nil => simp [hasPair]
  | cons c s ih =>
    rw [hasPair_cons, Bool.or_eq_true, ih, List.infix_cons_iff, List.cons_prefix_cons]
    cases s with
    | nil => simp
    | cons d s => simp [@eq_comm _ c a, @eq_comm _ d b]

/-- Looking for a pair of characters other than the slash is local. -/
lemma isLocal_hasPair {a b : Char} (ha : a ≠ '/') (hb : b ≠ '/') : IsLocal (hasPair a b) := by
  intro s t
  rw [hasPair_append_cons, beq_false_of_ne ha.symm, beq_false_of_ne hb.symm]
  simp

/-! ## The local checks -/

/-- Whether there is an empty component: the text is empty, or a slash stands at one of its ends or
next to another slash. -/
def hasGap (s : List Char) : Bool :=
  s.isEmpty || s.head? == some '/' || s.getLast? == some '/' || hasPair '/' '/' s

/-- Looking for an empty component is local. -/
lemma hasGap_isLocal : IsLocal hasGap := by
  intro s t
  unfold hasGap
  rw [hasPair_append_cons, List.getLast?_append, List.getLast?_cons, Option.some_or]
  cases s with
  | nil => simp
  | cons c s =>
    cases t with
    | nil => simp
    | cons d t =>
      simp only [List.cons_append, List.isEmpty_cons, List.head?_cons, Option.some_beq_some,
        Bool.false_or, List.getLast?_cons, Option.getD_some, BEq.rfl, Bool.and_true, Bool.true_and]
      ac_rfl

/-- The checks of the format that are local. -/
def isFaulty (s : List Char) : Bool :=
  hasGap s || s.any isForbidden || hasPair '.' '.' s || hasPair '@' '{' s ||
    (s.splitOn '/').any isReservedComponent

/-- They are local together. -/
lemma isFaulty_isLocal : IsLocal isFaulty :=
  (((hasGap_isLocal.or (isLocal_any (by decide))).or (isLocal_hasPair (by decide) (by decide))).or
    (isLocal_hasPair (by decide) (by decide))).or (isLocal_anyComponent isReservedComponent)

/-- A text that is not empty has the format of names when no local check finds anything, and the
ends of the text and the text as a whole are in order. -/
lemma breaksFormat_eq_false_iff {s : List Char} (hs : s ≠ []) :
    breaksFormat s = false ↔ isFaulty s = false ∧ s.head? ≠ some '-' ∧ s.getLast? ≠ some '.' ∧
      s ≠ ['@'] ∧ s ≠ ['H', 'E', 'A', 'D'] := by
  have hempty : s.isEmpty = false := List.isEmpty_eq_false_iff.2 hs
  simp only [breaksFormat, isFaulty, hasGap, hempty, Bool.or_eq_false_iff, beq_eq_false_iff_ne]
  tauto

/-! ## Components -/

/-- A component holds no slash. -/
lemma IsComponent.no_slash {component : List Char} (h : IsComponent component) :
    '/' ∉ component := by
  intro hmem
  exact (h.allowed '/' hmem).1 rfl

/-- The components of a text are what it is cut into. -/
lemma splitOn_ofComponents {components : List (List Char)}
    (h : ∀ c ∈ components, IsComponent c) (hne : components ≠ []) :
    (ofComponents components).splitOn '/' = components :=
  List.splitOn_intercalate '/' (fun c hc => (h c hc).no_slash) hne

/-- Between slashes, the components of names are the texts in which no local check finds
anything. -/
lemma isFaulty_eq_false_iff {component : List Char} (h : '/' ∉ component) :
    isFaulty component = false ↔ IsComponent component := by
  -- There is no slash to be found, so that the only gap is that of an empty text.
  have hgap : hasGap component = false ↔ component ≠ [] := by
    have hhead : component.head? ≠ some '/' := fun hhead => h (List.mem_of_mem_head? hhead)
    have hlast : component.getLast? ≠ some '/' := fun hlast => h (List.mem_of_getLast? hlast)
    have hpair : hasPair '/' '/' component ≠ true := fun hpair =>
      h ((hasPair_iff.1 hpair).subset List.mem_cons_self)
    simp [hasGap, hhead, hlast, hpair]
  have hpair (a b : Char) : hasPair a b component = false ↔ ¬ [a, b] <:+: component := by
    rw [← hasPair_iff, Bool.not_eq_true]
  have hallowed : component.any isForbidden = false ↔
      ∀ c ∈ component, c ≠ '/' ∧ isForbidden c = false := by
    rw [List.any_eq_false]
    refine forall₂_congr fun c hc => ?_
    rw [Bool.not_eq_true, and_iff_right_of_imp]
    rintro - rfl
    exact h hc
  have hreserved : isReservedComponent component = false ↔
      component.head? ≠ some '.' ∧ ¬ lockEnding <:+ component := by
    rw [isReservedComponent, Bool.or_eq_false_iff, beq_eq_false_iff_ne,
      ← List.isSuffixOf_iff_suffix, Bool.not_eq_true]
  simp only [isFaulty, List.splitOn_eq_singleton h, List.any_cons, List.any_nil, Bool.or_false,
    Bool.or_eq_false_iff, hgap, hallowed, hpair, hreserved]
  constructor
  · rintro ⟨⟨⟨⟨hne, hallowed⟩, hperiods⟩, hbrace⟩, hhead, hlock⟩
    exact ⟨hne, hhead, hlock, hperiods, hbrace, hallowed⟩
  · rintro ⟨hne, hhead, hlock, hperiods, hbrace, hallowed⟩
    exact ⟨⟨⟨⟨hne, hallowed⟩, hperiods⟩, hbrace⟩, hhead, hlock⟩

/-! ## Names -/

/-- A name is not empty. -/
lemma IsName.ne_nil {s : List Char} (h : IsName s) : s ≠ [] := by
  obtain ⟨components, hne, hcomponents, rfl, -⟩ := h
  intro hnil
  have hcut := splitOn_ofComponents hcomponents hne
  rw [hnil, List.splitOn_nil] at hcut
  exact (hcomponents [] (hcut ▸ List.mem_singleton_self [])).ne_nil rfl

/-- The pieces of a name between its slashes are components. -/
lemma IsName.isComponent {s component : List Char} (h : IsName s)
    (hmem : component ∈ s.splitOn '/') : IsComponent component := by
  obtain ⟨components, hne, hcomponents, rfl, -⟩ := h
  rw [splitOn_ofComponents hcomponents hne] at hmem
  exact hcomponents component hmem

/-- **A text that is not empty breaks the format of names exactly when it is no name.**

**Proof sketch.** The local checks find nothing in the text when they find nothing in the pieces
between its slashes (`IsLocal.eq_any`), that is, when these are components
(`isFaulty_eq_false_iff`). The other checks are those of the grammar. -/
lemma breaksFormat_iff {s : List Char} (hs : s ≠ []) : breaksFormat s = true ↔ ¬ IsName s := by
  rw [← not_iff_not, Bool.not_eq_true, not_not, breaksFormat_eq_false_iff hs,
    isFaulty_isLocal.eq_any, List.any_eq_false]
  constructor
  · rintro ⟨hpieces, hends⟩
    refine ⟨s.splitOn '/', List.splitOn_ne_nil '/' s, fun c hc => ?_,
      (List.intercalate_splitOn '/').symm, hends⟩
    exact (isFaulty_eq_false_iff (Path.not_mem_of_mem_splitOn hc)).1
      (Bool.not_eq_true _ ▸ hpieces c hc)
  · intro hname
    refine ⟨fun c hc => ?_, hname.choose_spec.2.2.2⟩
    have hcomponent := hname.isComponent hc
    rw [Bool.not_eq_true]
    exact (isFaulty_eq_false_iff hcomponent.no_slash).2 hcomponent

/-- A name has the format of names. -/
lemma IsName.breaksFormat_eq_false {s : List Char} (h : IsName s) : breaksFormat s = false := by
  rw [← Bool.not_eq_true]
  exact fun hbreaks => (breaksFormat_iff h.ne_nil).1 hbreaks h

/-! ## What git takes -/

/-- The names that git takes for branches on its command line: they are legal, do not begin with a
hyphen, as options do, and are neither `@` nor `HEAD`, which stand for what is checked out. -/
structure IsUsable (name : List Char) : Prop extends IsLegal name where
  head_ne : name.head? ≠ some '-'
  ne_at : name ≠ ['@']
  ne_head : name ≠ ['H', 'E', 'A', 'D']

/-- The forbidden characters are white space, the ASCII controls and the reserved ones: every other
blank is a control. -/
lemma isForbidden_iff {c : Char} : isForbidden c = true ↔
    Text.isWhiteSpace c = true ∨ c.toNat < 0x20 ∨ c.toNat = 0x7F ∨ c ∈ reserved := by
  have hseparator : 0x1C ≤ c.toNat ∧ c.toNat ≤ 0x1F → c.toNat < 0x20 := by omega
  simp only [isForbidden, Text.isBlank, Bool.or_eq_true, Bool.and_eq_true, decide_eq_true_iff,
    beq_iff_eq, List.contains_iff_mem]
  tauto

/-- Git has a place in names for every character that is not forbidden. -/
lemma of_isForbidden_eq_false {c : Char} (h : isForbidden c = false) :
    0x20 < c.toNat ∧ c.toNat ≠ 0x7F ∧ c ∉ reserved := by
  rw [← Bool.not_eq_true, isForbidden_iff, not_or, not_or, not_or] at h
  obtain ⟨hwhite, hcontrol, hdelete, hreserved⟩ := h
  have hspace : c.toNat ≠ 0x20 := by
    intro hspace
    simp [Text.isWhiteSpace, hspace] at hwhite
  exact ⟨by omega, hdelete, hreserved⟩

/-- Git takes every name of the grammar. -/
lemma IsName.isUsable {s : List Char} (h : IsName s) : IsUsable s := by
  obtain ⟨hfaulty, hhead, hlast, hat, hheadName⟩ :=
    (breaksFormat_eq_false_iff h.ne_nil).1 h.breaksFormat_eq_false
  simp only [isFaulty, Bool.or_eq_false_iff] at hfaulty
  obtain ⟨⟨⟨⟨-, hallowed⟩, hperiods⟩, hbrace⟩, hreserved⟩ := hfaulty
  refine ⟨⟨h.ne_nil, fun c hc => ?_, ?_, ?_, ?_, hlast⟩, hhead, hat, hheadName⟩
  · exact of_isForbidden_eq_false (Bool.not_eq_true _ ▸ List.any_eq_false.1 hallowed c hc)
  · rw [← hasPair_iff, hperiods]
    exact Bool.false_ne_true
  · rw [← hasPair_iff, hbrace]
    exact Bool.false_ne_true
  · exact fun c hc =>
      ⟨(h.isComponent hc).ne_nil, Bool.not_eq_true _ ▸ List.any_eq_false.1 hreserved c hc⟩

/-! ## Reports -/

section Violations

variable {blank : Bool} {full : List Char}

/-- The rules that are broken are reported in a fixed order, each at most once. -/
lemma violationsOf_sublist :
    (violationsOf blank full).Sublist [.empty, .tooLong, .invalidCharacters] := by
  have hpart (p : Prop) [Decidable p] (v : Violation) :
      (if p then [v] else []).Sublist [v] := by
    split
    · exact List.Sublist.refl _
    · exact List.nil_sublist _
  exact ((hpart _ _).append (hpart _ _)).append (hpart _ _)

/-- A name is reported as empty when it is blank. -/
lemma empty_mem_violationsOf : .empty ∈ violationsOf blank full ↔ blank = true := by
  simp [violationsOf]

/-- A text is reported as too long when it is longer than the longest name. -/
lemma tooLong_mem_violationsOf : .tooLong ∈ violationsOf blank full ↔ 100 < full.length := by
  change _ ↔ maxLength < full.length
  simp [violationsOf]

/-- The characters of a text are reported as invalid when it is not empty and no name. -/
lemma invalidCharacters_mem_violationsOf :
    .invalidCharacters ∈ violationsOf blank full ↔ full ≠ [] ∧ ¬ IsName full := by
  have hformat : full ≠ [] ∧ breaksFormat full = true ↔ full ≠ [] ∧ ¬ IsName full :=
    and_congr_right fun hne => breaksFormat_iff hne
  rw [← hformat]
  simp [violationsOf]

/-- Nothing is reported of a name when it is not blank, and the text is not too long and, unless it
is empty, a name of the grammar. -/
lemma violationsOf_eq_nil_iff : violationsOf blank full = [] ↔
    blank = false ∧ full.length ≤ 100 ∧ (full = [] ∨ IsName full) := by
  have hnil : violationsOf blank full = [] ↔ .empty ∉ violationsOf blank full ∧
      .tooLong ∉ violationsOf blank full ∧ .invalidCharacters ∉ violationsOf blank full := by
    rw [List.eq_nil_iff_forall_not_mem]
    exact ⟨fun h => ⟨h _, h _, h _⟩, fun h v => by cases v <;> simp only [h, not_false_eq_true]⟩
  rw [hnil, empty_mem_violationsOf, tooLong_mem_violationsOf, invalidCharacters_mem_violationsOf,
    Bool.not_eq_true, not_lt, not_and_or, not_not, not_not]

end Violations

/-- The text that is looked at is the name with the other text in front of it. -/
lemma violations_eq (lead name : String) :
    violations lead name = violationsOf (name = "") (lead ++ name).toList := by
  rw [violations, String.toList_append]

/-- A name is valid when it is not empty and makes a name of the grammar that is not too long. -/
lemma validate_valid_iff {lead name : String} : (validate name lead).valid = true ↔
    name ≠ "" ∧ (lead ++ name).length ≤ 100 ∧ IsName (lead ++ name).toList := by
  rw [Validation.valid, validate, List.isEmpty_iff, violations_eq, violationsOf_eq_nil_iff,
    decide_eq_false_iff_not, String.length_toList]
  refine and_congr_right fun hne => and_congr_right fun _ => or_iff_right fun hnil => hne ?_
  rw [String.toList_append, List.append_eq_nil_iff, String.toList_eq_nil_iff,
    String.toList_eq_nil_iff] at hnil
  exact hnil.2

/-- **A name is valid exactly when it is in the grammar of names**, together with what is put in
front of it, and is neither empty nor too long. The errors are the rules that it breaks, in order
and each at most once, and git takes every valid name. The characters that the grammar leaves out
are white space, the ASCII controls and seven others.

**Proof sketch.** The errors are read off the report one by one; for the last of them the checks of
the format agree with the grammar (`breaksFormat_iff`). -/
theorem validate_grammar (name lead : String) :
    ((validate name lead).valid = true ↔
      name ≠ "" ∧ (lead ++ name).length ≤ 100 ∧ IsName (lead ++ name).toList) ∧
    (validate name lead).errors.Sublist [.empty, .tooLong, .invalidCharacters] ∧
    (.empty ∈ (validate name lead).errors ↔ name = "") ∧
    (.tooLong ∈ (validate name lead).errors ↔ 100 < (lead ++ name).length) ∧
    (.invalidCharacters ∈ (validate name lead).errors ↔
      lead ++ name ≠ "" ∧ ¬ IsName (lead ++ name).toList) ∧
    ((validate name lead).valid = true → IsUsable (lead ++ name).toList) ∧
    ∀ c, isForbidden c = true ↔ Text.isWhiteSpace c = true ∨ c.toNat < 0x20 ∨ c.toNat = 0x7F ∨
      c ∈ ['~', '^', ':', '?', '*', '[', '\\'] := by
  have herrors : (validate name lead).errors = violationsOf (name = "") (lead ++ name).toList :=
    violations_eq lead name
  rw [herrors]
  refine ⟨validate_valid_iff, violationsOf_sublist, ?_, ?_, ?_, ?_, fun c => isForbidden_iff⟩
  · rw [empty_mem_violationsOf, decide_eq_true_iff]
  · rw [tooLong_mem_violationsOf, String.length_toList]
  · rw [invalidCharacters_mem_violationsOf, ne_eq, String.toList_eq_nil_iff]
  · intro hvalid
    exact (validate_valid_iff.1 hvalid).2.2.isUsable

/-- A name with a letter beyond ASCII is valid behind a component, and git takes the two. -/
theorem validate_grammar_nested :
    (validate "é@2.x" "me/").valid = true ∧ IsUsable ("me/" ++ "é@2.x").toList :=
  have hvalid : (validate "é@2.x" "me/").valid = true := by decide
  ⟨hvalid, (validate_grammar "é@2.x" "me/").2.2.2.2.2.1 hvalid⟩

end WorkTree.BranchName
