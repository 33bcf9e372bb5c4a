import WorkTree.Proofs.BranchName.Grammar
import WorkTree.Proofs.Listing.Branches

set_option relaxedAutoImplicit false
set_option autoImplicit false

/-!
# Names that are joined

Two names of the grammar with a slash between them are again one: their components are those of the
two, and the ends of the whole are an end of the first and one of the second. Only the length stands
in the way of joining accepted names. A text in front of a name is judged as a part of it, so that a
name is judged in the same way before and after the text is put there.

## Main results

* `WorkTree.BranchName.IsName.join`, `WorkTree.BranchName.IsName.intercalate` — two names, or a list
  of them, with slashes between them.
* `WorkTree.BranchName.errors_eq`, `WorkTree.BranchName.normalizedName_of_valid` — the report on a
  name behind a text, and the report on the two as one name.
* `WorkTree.BranchName.validate_composes` — validation and joining.
-/

namespace WorkTree.BranchName

/-! ## Names of the grammar -/

/-- **Two names with a slash between them are a name.** -/
lemma IsName.join {s t : List Char} (hs : IsName s) (ht : IsName t) : IsName (s ++ '/' :: t) := by
  have hslash : '/' ∈ s ++ '/' :: t := List.mem_append_right s List.mem_cons_self
  refine ⟨(s ++ '/' :: t).splitOn '/', List.splitOn_ne_nil _ _, ?_,
    (List.intercalate_splitOn '/').symm, ?_, ?_, ?_, ?_⟩
  · -- The slash between the two is one of the places where they are cut.
    intro component hmem
    rw [List.splitOn_append_cons_self] at hmem
    rcases List.mem_append.1 hmem with hmem | hmem
    · exact hs.isComponent hmem
    · exact ht.isComponent hmem
  · rw [List.head?_append_of_ne_nil _ hs.ne_nil]
    exact hs.isUsable.head_ne
  · rw [List.getLast?_append_of_ne_nil _ (List.cons_ne_nil _ _), List.getLast?_cons]
    have hlast := ht.isUsable.last_ne
    rw [List.getLast?_eq_some_getLast ht.ne_nil] at hlast ⊢
    exact hlast
  · intro heq
    rw [heq] at hslash
    exact absurd hslash (by decide)
  · intro heq
    rw [heq] at hslash
    exact absurd hslash (by decide)

/-- Names with slashes between them are a name. -/
lemma IsName.intercalate {names : List String} (h : ∀ name ∈ names, IsName name.toList)
    (hne : names ≠ []) : IsName ("/".intercalate names).toList := by
  induction names with
  | nil => exact absurd rfl hne
  | cons name rest ih =>
    have hname := h name List.mem_cons_self
    by_cases hrest : rest = []
    · rw [hrest, String.intercalate_singleton]
      exact hname
    · rw [String.intercalate_cons_of_ne_nil hrest, String.toList_append, String.toList_append,
        List.append_assoc]
      exact hname.join (ih (fun name' hmem => h name' (List.mem_cons_of_mem _ hmem)) hrest)

/-! ## Reports -/

/-- Behind a text, a name that is not empty is judged as the two are judged as one name. -/
lemma errors_eq {name : String} (h : name ≠ "") (lead : String) :
    (validate name lead).errors = (validate (lead ++ name)).errors := by
  have hwhole : lead ++ name ≠ "" := by
    rw [ne_eq, String.append_eq_empty_iff]
    exact fun hboth => h hboth.2
  change violations lead name = violations "" (lead ++ name)
  rw [violations_eq, violations_eq, String.empty_append, decide_eq_false h, decide_eq_false hwhole]

/-- The name to use of a valid name is the name with the text in front of it. -/
lemma normalizedName_of_valid {lead name : String} (h : (validate name lead).valid = true) :
    (validate name lead).normalizedName = lead ++ name := by
  have herrors : violations lead name = [] := List.isEmpty_iff.1 h
  by_cases hlead : lead = ""
  · simp [validate, hlead]
  · simp [validate, hlead, herrors]

/-- Without a text in front of it, the name to use is the name as it is. -/
lemma normalizedName_alone (name : String) : (validate name).normalizedName = name := by
  simp [validate]

/-- A name is accepted when it is a name of the grammar and not too long. -/
lemma isAccepted_iff {name : String} :
    IsAccepted name ↔ name.length ≤ 100 ∧ IsName name.toList := by
  rw [IsAccepted, validate_valid_iff, String.empty_append, and_iff_right_of_imp]
  rintro ⟨-, hname⟩ rfl
  exact hname.ne_nil rfl

/-- The name to use of a valid name is accepted. -/
lemma isAccepted_normalizedName {lead name : String} (h : (validate name lead).valid = true) :
    IsAccepted (validate name lead).normalizedName := by
  have hne : name ≠ "" := (validate_valid_iff.1 h).1
  rw [normalizedName_of_valid h, IsAccepted, Validation.valid, ← errors_eq hne]
  exact h

/-- Behind an accepted name and a slash, an accepted name is valid unless the two are too long. -/
lemma valid_behind_slash_iff {a b : String} (ha : IsAccepted a) (hb : IsAccepted b) :
    (validate b (a ++ "/")).valid = true ↔ a.length + 1 + b.length ≤ 100 := by
  have hname : IsName (a ++ "/" ++ b).toList := by
    rw [String.toList_append, String.toList_append, List.append_assoc]
    exact (isAccepted_iff.1 ha).2.join (isAccepted_iff.1 hb).2
  have hlength : (a ++ "/" ++ b).length = a.length + 1 + b.length := by
    rw [String.length_append, String.length_append]
    rfl
  have hne : b ≠ "" := by
    rintro rfl
    exact (isAccepted_iff.1 hb).2.ne_nil rfl
  rw [validate_valid_iff, hlength]
  exact ⟨fun h => h.2.1, fun h => ⟨hne, h, hname⟩⟩

/-- **Validation composes** with texts in front of names and with joining. A text in front of a name
is judged as a part of it; the name to use of a valid name is accepted, and is its own name to use;
and accepted names with slashes between them, two or any number, are accepted unless they are too
long together.

**Proof sketch.** Both reports of the first part are those on the same text (`errors_eq`). Joined
names are names of the grammar (`IsName.join`, and by induction `IsName.intercalate`), so that only
the rule about the length is left. -/
theorem validate_composes :
    (∀ lead name : String, name ≠ "" →
      (validate name lead).errors = (validate (lead ++ name)).errors) ∧
    (∀ lead name : String, (validate name lead).valid = true →
      IsAccepted (validate name lead).normalizedName ∧
      (validate (validate name lead).normalizedName).normalizedName =
        (validate name lead).normalizedName) ∧
    (∀ a b : String, IsAccepted a → IsAccepted b →
      ((validate b (a ++ "/")).valid = true ↔ a.length + 1 + b.length ≤ 100) ∧
      ((validate b (a ++ "/")).valid = true →
        (validate b (a ++ "/")).normalizedName = a ++ "/" ++ b)) ∧
    (∀ names : List String, names ≠ [] → (∀ name ∈ names, IsAccepted name) →
      (IsAccepted ("/".intercalate names) ↔ ("/".intercalate names).length ≤ 100)) := by
  refine ⟨fun lead name h => errors_eq h lead, fun lead name h => ?_, fun a b ha hb => ?_,
    fun names hne h => ?_⟩
  · exact ⟨isAccepted_normalizedName h, normalizedName_alone _⟩
  · exact ⟨valid_behind_slash_iff ha hb, normalizedName_of_valid⟩
  · rw [isAccepted_iff]
    have hnames := fun name hmem => (isAccepted_iff.1 (h name hmem)).2
    exact and_iff_left (IsName.intercalate hnames hne)

/-- Accepted names, one of them with a slash and one with a letter beyond ASCII, are accepted when
they are joined, and so is what a text in front makes of one of them. -/
theorem validate_composes_nested :
    (validate "fix/2.x" "é/").valid = true ∧
    IsAccepted (validate "fix/2.x" "é/").normalizedName ∧
    (validate "fix/2.x" ("é" ++ "/")).normalizedName = "é" ++ "/" ++ "fix/2.x" ∧
    IsAccepted ("/".intercalate ["é", "fix/2.x", "é"]) :=
  have hfirst : IsAccepted "é" := by decide
  have hsecond : IsAccepted "fix/2.x" := by decide
  have hvalid : (validate "fix/2.x" "é/").valid = true := by decide
  have hnames : ∀ name ∈ ["é", "fix/2.x", "é"], IsAccepted name := by decide
  ⟨hvalid, (validate_composes.2.1 "é/" "fix/2.x" hvalid).1,
    (validate_composes.2.2.1 "é" "fix/2.x" hfirst hsecond).2 hvalid,
    (validate_composes.2.2.2 ["é", "fix/2.x", "é"] (by simp) hnames).2 (by decide)⟩

end WorkTree.BranchName
