import Mathlib.Data.List.Infix
import WorkTree.BranchName.Basic
import WorkTree.Listing.Branches
import WorkTree.Proofs.Text.Line

set_option relaxedAutoImplicit false
set_option autoImplicit false

/-!
# Reading back a listing of merged branches

Git prints the names of branches one per line, each with a line feed, and lets a name hold any
character beyond ASCII. A reader that also breaks lines at other characters, and drops blanks around
a name, does not always find the names again: it finds the pieces of each name.

## Main definitions

* `WorkTree.BranchName.IsLegal` — the names that git gives to branches.
* `WorkTree.Listing.pieces` — what is read where a name was printed.
* `WorkTree.Listing.IsLegible` — a name is read as it was printed.
* `WorkTree.Listing.ReadBack` — the names that matter are read as they were printed.

## Main results

* `WorkTree.Listing.mergedNames_listing` — what is read from a listing are the pieces of its names.
* `WorkTree.Listing.mergedNames_eq_filter_iff` — when the names that are read are those that were
  printed, without the ones that are kept out.
-/

namespace WorkTree

/-! ## Names that git gives -/

/-- The names that git gives to branches: no name is empty, ends in a period, or holds two periods
in a row, `@` before an opening brace, an ASCII control, a space or a reserved character; and its
components are not empty, do not begin with a period and do not end in `.lock`. Any character beyond
ASCII may stand in a name. -/
@[mk_iff]
structure BranchName.IsLegal (name : List Char) : Prop where
  ne_nil : name ≠ []
  allowed : ∀ c ∈ name, 0x20 < c.toNat ∧ c.toNat ≠ 0x7F ∧ c ∉ reserved
  no_periods : ¬ ['.', '.'] <:+: name
  no_at_brace : ¬ ['@', '{'] <:+: name
  components : ∀ component ∈ name.splitOn '/',
    component ≠ [] ∧ isReservedComponent component = false
  last_ne : name.getLast? ≠ some '.'

instance BranchName.decidableIsLegal (name : List Char) : Decidable (IsLegal name) :=
  haveI (p : Char → Prop) [DecidablePred p] : Decidable (∀ c ∈ name, p c) := name.decidableBAll p
  decidable_of_iff _ (isLegal_iff name).symm

/-- No name that git gives holds a carriage return. -/
lemma BranchName.IsLegal.no_carriageReturn {name : List Char} (h : IsLegal name) :
    '\r' ∉ name := by
  intro hmem
  exact absurd (h.allowed '\r' hmem).1 (by decide)

namespace Listing

/-! ## Pieces -/

/-- What is read where a name was printed with a line feed: its lines, without the blanks at their
ends. -/
def pieces (name : String) : List String :=
  (Text.lines (name.toList ++ ['\n'])).map fun line => String.ofList (Text.trim line)

/-- A name is read as it was printed: it holds no line break, and no blank at its ends. -/
@[mk_iff]
structure IsLegible (name : String) : Prop where
  unbroken : ∀ c ∈ name.toList, Text.isLineBreak c = false
  trimmed : Text.trim name.toList = name.toList

instance decidableIsLegible (name : String) : Decidable (IsLegible name) :=
  haveI (p : Char → Prop) [DecidablePred p] : Decidable (∀ c ∈ name.toList, p c) :=
    name.toList.decidableBAll p
  decidable_of_iff _ (isLegible_iff name).symm

/-- A legible name is its only piece. -/
lemma IsLegible.pieces_eq {name : String} (h : IsLegible name) : pieces name = [name] := by
  rw [pieces, Text.lines_of_unbroken h.unbroken, List.map_singleton, h.trimmed,
    String.ofList_toList]

/-- Every piece is legible. -/
lemma isLegible_of_mem_pieces {name piece : String} (h : piece ∈ pieces name) :
    IsLegible piece := by
  obtain ⟨line, hline, rfl⟩ := List.mem_map.1 h
  constructor
  · rw [String.toList_ofList]
    exact fun c hc => Text.isLineBreak_of_mem_lines hline c (Text.mem_of_mem_trim hc)
  · rw [String.toList_ofList, Text.trim_trim]

/-- What is read from a listing are the pieces of the names that were printed, without the empty
ones and those that are kept out. -/
lemma mergedNames_listing {names : List String} (h : ∀ name ∈ names, '\r' ∉ name.toList)
    (keptOut : List String) :
    mergedNames keptOut (Branch.listing (names.map String.toList)) =
      (names.flatMap pieces).filter fun name => name ≠ "" && !keptOut.contains name := by
  unfold mergedNames Branch.listing
  rw [String.toList_ofList]
  congr 1
  induction names with
  | nil => rfl
  | cons name rest ih =>
    have hrest := ih fun name' hmem => h name' (List.mem_cons_of_mem _ hmem)
    rw [List.map_cons, List.flatMap_cons, List.append_assoc, List.singleton_append,
      Text.lines_append_lineFeed (h name List.mem_cons_self), List.map_append, hrest,
      List.flatMap_cons]
    rfl

/-! ## Names that are found again -/

section Counting

variable {α : Type} {found : α → List α} {kept : α → Bool}

/-- What is found of some things is at least as much as those that are kept, if each of these is
found. -/
lemma length_filter_le_flatMap {xs : List α} (h : ∀ x ∈ xs, kept x = true → found x = [x]) :
    (xs.filter kept).length ≤ (xs.flatMap found).length := by
  induction xs with
  | nil => simp
  | cons x xs ih =>
    have hrest := ih fun y hy => h y (List.mem_cons_of_mem _ hy)
    rw [List.flatMap_cons, List.length_append, List.filter_cons]
    split
    · next hkept =>
      rw [h x List.mem_cons_self hkept, List.length_cons, List.length_singleton]
      omega
    · omega

/-- When exactly the things that are kept are found, nothing is found of the others. -/
lemma found_eq_nil_of_flatMap_eq_filter {xs : List α}
    (h : ∀ x ∈ xs, kept x = true → found x = [x]) (heq : xs.flatMap found = xs.filter kept) :
    ∀ x ∈ xs, kept x = false → found x = [] := by
  induction xs with
  | nil => simp
  | cons x xs ih =>
    have hrest : ∀ y ∈ xs, kept y = true → found y = [y] :=
      fun y hy => h y (List.mem_cons_of_mem _ hy)
    rw [List.flatMap_cons, List.filter_cons] at heq
    cases hkept : kept x with
    | true =>
      rw [h x List.mem_cons_self hkept, if_pos hkept] at heq
      have hxs := ih hrest (List.cons.inj heq).2
      rintro y hy hno
      rcases List.mem_cons.1 hy with rfl | hy
      · rw [hkept] at hno
        cases hno
      · exact hxs y hy hno
    | false =>
      rw [hkept, if_neg Bool.false_ne_true] at heq
      have hlength := congrArg List.length heq
      have hle := length_filter_le_flatMap hrest
      -- Among the rest no less is found than is kept, so that nothing is left for `x`.
      rw [List.length_append] at hlength
      have hnil : found x = [] := List.eq_nil_of_length_eq_zero (by omega)
      rw [hnil, List.nil_append] at heq
      rintro y hy hno
      rcases List.mem_cons.1 hy with rfl | hy
      · exact hnil
      · exact ih hrest heq y hy hno

/-- When each thing that is kept is found, and nothing of the others, exactly the things that are
kept are found. -/
lemma flatMap_eq_filter {xs : List α}
    (h : ∀ x ∈ xs, found x = if kept x = true then [x] else []) :
    xs.flatMap found = xs.filter kept := by
  induction xs with
  | nil => rfl
  | cons x xs ih =>
    have hrest := ih fun y hy => h y (List.mem_cons_of_mem _ hy)
    rw [List.flatMap_cons, List.filter_cons, hrest, h x List.mem_cons_self]
    split <;> rfl

end Counting

/-- The names that matter are read as they were printed: every name that is not kept out is legible,
and every piece of one that is kept out is empty or kept out as well. -/
def ReadBack (names keptOut : List String) : Prop :=
  ∀ name ∈ names, (name ∉ keptOut → IsLegible name) ∧
    (name ∈ keptOut → ∀ piece ∈ pieces name, piece = "" ∨ piece ∈ keptOut)

/-- Legible names are read as they were printed, whichever are kept out. -/
lemma readBack_of_isLegible {names : List String} (h : ∀ name ∈ names, IsLegible name)
    (keptOut : List String) : ReadBack names keptOut := by
  refine fun name hmem => ⟨fun _ => h name hmem, fun hin piece hpiece => ?_⟩
  rw [(h name hmem).pieces_eq] at hpiece
  exact .inr (List.mem_singleton.1 hpiece ▸ hin)

/-- The names that are read from a listing are those that were printed, without the ones that are
kept out, exactly when the names that matter are read as they were printed.

**Proof sketch.** Every piece that is read is legible, so that every name that is read as it was
printed is legible, and is its only piece. As many pieces are read as there are names that are not
kept out (`found_eq_nil_of_flatMap_eq_filter`), so that nothing is read where the other names were
printed. -/
lemma mergedNames_eq_filter_iff {names : List String}
    (hnames : ∀ name ∈ names, name ≠ "" ∧ '\r' ∉ name.toList) (keptOut : List String) :
    mergedNames keptOut (Branch.listing (names.map String.toList)) =
        names.filter (fun name => !keptOut.contains name) ↔
      ReadBack names keptOut := by
  rw [mergedNames_listing fun name hmem => (hnames name hmem).2, List.filter_flatMap]
  constructor
  · intro heq
    have hlegible : ∀ name ∈ names, name ∉ keptOut → IsLegible name := by
      intro name hmem hout
      have hfound : name ∈ names.filter fun name => !keptOut.contains name :=
        List.mem_filter.2 ⟨hmem, by simpa using hout⟩
      rw [← heq] at hfound
      obtain ⟨printed, -, hpiece⟩ := List.mem_flatMap.1 hfound
      exact isLegible_of_mem_pieces (List.mem_filter.1 hpiece).1
    have hkept : ∀ name ∈ names, (!keptOut.contains name) = true →
        (pieces name).filter (fun name => name ≠ "" && !keptOut.contains name) = [name] := by
      intro name hmem hout
      rw [(hlegible name hmem (by simpa using hout)).pieces_eq]
      simpa [(hnames name hmem).1] using hout
    refine fun name hmem => ⟨hlegible name hmem, fun hin piece hpiece => ?_⟩
    have hnil := found_eq_nil_of_flatMap_eq_filter hkept heq name hmem (by simpa using hin)
    have hdropped := List.filter_eq_nil_iff.1 hnil piece hpiece
    by_cases hempty : piece = ""
    · exact .inl hempty
    · exact .inr (by simpa [hempty] using hdropped)
  · intro hcond
    refine flatMap_eq_filter fun name hmem => ?_
    obtain ⟨hlegible, hin⟩ := hcond name hmem
    by_cases hout : name ∈ keptOut
    · rw [if_neg (by simpa using hout), List.filter_eq_nil_iff]
      intro piece hpiece
      rcases hin hout piece hpiece with hempty | hkept
      · simp [hempty]
      · simp [hkept]
    · rw [if_pos (by simpa using hout), (hlegible hout).pieces_eq]
      simp [(hnames name hmem).1, hout]

end Listing

end WorkTree
