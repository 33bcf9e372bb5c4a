import Mathlib.Data.List.Basic
import Mathlib.Tactic.Lemma
import WorkTree.Host.Basic

set_option relaxedAutoImplicit false
set_option autoImplicit false

/-!
# Normal forms of paths

What a text writes is a path in normal form: its parts are names, and writing it down and reading it
again gives the same path. A path that was located is absolute besides, and goes down from the root
directory only. Such a path means itself in every directory and on every host, so that locating
twice is locating once, wherever the second time is.

## Main definitions

* `WorkTree.Path.IsName`, `WorkTree.Path.IsNormal` — the parts that a path is read with.
* `WorkTree.Path.IsLocated` — the form of a path that was located.
* `WorkTree.Host.IsProper` — the working directory has that form.

## Main results

* `WorkTree.Path.ofString_isNormal`, `WorkTree.Path.ofString_text` — a path is read in normal form,
  and what is written in normal form is read again.
* `WorkTree.Path.resolveFrom_of_isResolved` — a resolved path means itself.
* `WorkTree.Host.locate_isLocated`, `WorkTree.Host.locate_of_isLocated` — a path that was located
  has the form that is located as it is.
-/

namespace WorkTree

namespace Path

/-! ## Names -/

/-- A name that can stand in a path: it is not empty, is not `.`, and holds no slash. -/
structure IsName (name : String) : Prop where
  ne_empty : name ≠ ""
  ne_dot : name ≠ "."
  no_slash : '/' ∉ name.toList

/-- A path in normal form is made of names. -/
def IsNormal (p : Path) : Prop :=
  ∀ part ∈ p.parts, IsName part

/-- The pieces between separators hold no separator. -/
lemma not_mem_of_mem_splitOn {α : Type} [BEq α] [LawfulBEq α] {separator : α} {s piece : List α}
    (h : piece ∈ s.splitOn separator) : separator ∉ piece := by
  induction s generalizing piece with
  | nil =>
    rw [List.splitOn_nil, List.mem_singleton] at h
    subst h
    exact List.not_mem_nil
  | cons c s ih =>
    rw [List.splitOn_cons_eq_if_modifyHead] at h
    split at h
    · rcases List.mem_cons.1 h with rfl | h
      · exact List.not_mem_nil
      · exact ih h
    · next hc =>
      cases hpieces : s.splitOn separator with
      | nil => exact absurd hpieces (List.splitOn_ne_nil _ _)
      | cons first rest =>
        rw [hpieces] at h ih
        rcases List.mem_cons.1 h with rfl | h
        · rintro (_ | ⟨_, hmem⟩)
          · exact hc BEq.rfl
          · exact ih List.mem_cons_self hmem
        · exact ih (List.mem_cons_of_mem _ h)

/-- A text is read in normal form. -/
lemma ofString_isNormal (s : String) : (ofString s).IsNormal := by
  intro part hpart
  obtain ⟨piece, hpiece, rfl⟩ := List.mem_map.1 hpart
  obtain ⟨hmem, hkept⟩ := List.mem_filter.1 hpiece
  simp only [Bool.and_eq_true, Bool.not_eq_true', List.isEmpty_eq_false_iff, bne_iff_ne] at hkept
  refine ⟨fun h => hkept.1 ?_, fun h => hkept.2 ?_, ?_⟩
  · exact String.ofList_injective h
  · exact String.ofList_injective h
  · rw [String.toList_ofList]
    exact not_mem_of_mem_splitOn hmem

/-! ## Writing and reading -/

/-- Names with slashes between them are the pieces between the slashes. -/
lemma splitOn_intercalate_names {names : List String} (h : ∀ name ∈ names, IsName name)
    (hne : names ≠ []) :
    (['/'].intercalate (names.map String.toList)).splitOn '/' = names.map String.toList := by
  refine List.splitOn_intercalate '/' ?_ (by simpa using hne)
  rintro _ hmem
  obtain ⟨name, hname, rfl⟩ := List.mem_map.1 hmem
  exact (h name hname).no_slash

/-- Names are kept as the parts of a path. -/
lemma filter_names {names : List String} (h : ∀ name ∈ names, IsName name) :
    ((names.map String.toList).filter fun part => !part.isEmpty && part != ['.']).map
      String.ofList = names := by
  have hkept : ((names.map String.toList).filter fun part => !part.isEmpty && part != ['.']) =
      names.map String.toList := by
    refine List.filter_eq_self.2 fun part hpart => ?_
    obtain ⟨name, hname, rfl⟩ := List.mem_map.1 hpart
    have hdot : name.toList ≠ ['.'] := fun hchars =>
      (h name hname).ne_dot (String.toList_inj.1 hchars)
    have hempty : name.toList ≠ [] := fun hchars =>
      (h name hname).ne_empty (String.toList_eq_nil_iff.1 hchars)
    simp [hdot, hempty]
  rw [hkept, List.map_map]
  exact (List.map_congr_left fun name _ => String.ofList_toList).trans (List.map_id _)

/-- Names with slashes between them are the parts that are read. -/
lemma partsOf_intercalate {names : List String} (h : ∀ name ∈ names, IsName name) :
    partsOf (['/'].intercalate (names.map String.toList)) = names := by
  cases names with
  | nil => rfl
  | cons name rest =>
    rw [partsOf, splitOn_intercalate_names h (List.cons_ne_nil _ _), filter_names h]

/-- A slash in front adds no part. -/
lemma partsOf_slash (s : List Char) : partsOf ('/' :: s) = partsOf s := by
  rw [partsOf, List.splitOn_cons_eq_if_modifyHead, if_pos (by rfl)]
  rfl

/-- A root in front adds no part. -/
lemma partsOf_rootText (root : Root) (s : List Char) :
    partsOf (root.text.toList ++ s) = partsOf s := by
  cases root with
  | relative => rfl
  | absolute => exact partsOf_slash s
  | doubled => exact (partsOf_slash _).trans (partsOf_slash s)

/-- Names with slashes between them do not begin with a slash. -/
lemma head?_intercalate_ne_slash {names : List String} (h : ∀ name ∈ names, IsName name) :
    (['/'].intercalate (names.map String.toList)).head? ≠ some '/' := by
  cases names with
  | nil => exact nofun
  | cons name rest =>
    have hname := h name List.mem_cons_self
    have hne : name.toList ≠ [] := fun hchars =>
      hname.ne_empty (String.toList_eq_nil_iff.1 hchars)
    obtain ⟨c, tail, hchars⟩ := List.exists_cons_of_ne_nil hne
    have hc : c ≠ '/' := by
      rintro rfl
      exact hname.no_slash (hchars ▸ List.mem_cons_self)
    cases rest <;> simp [List.intercalate, hchars, hc]

/-- The root that is written is the root that is read. -/
lemma rootOf_text {root : Root} {s : List Char} (h : s.head? ≠ some '/') :
    rootOf (root.text.toList ++ s) = root := by
  cases s with
  | nil => cases root <;> rfl
  | cons c rest =>
    have hc : c ≠ '/' := fun hc => h (congrArg some hc)
    cases root <;> simp [Root.text, rootOf, hc]

/-- **What is written in normal form is read again.** -/
theorem ofString_text {p : Path} (h : p.IsNormal) : ofString p.text = p := by
  obtain ⟨root, parts⟩ := p
  by_cases hhere : root = .relative ∧ parts = []
  · obtain ⟨rfl, rfl⟩ := hhere
    rfl
  · have hchars : (text ⟨root, parts⟩).toList =
        root.text.toList ++ ['/'].intercalate (parts.map String.toList) := by
      rw [text, if_neg hhere, String.toList_append, String.toList_intercalate]
      rfl
    rw [ofString, hchars, rootOf_text (head?_intercalate_ne_slash h), partsOf_rootText,
      partsOf_intercalate h]

/-! ## Resolution -/

/-- Following names from a directory leads through its names and the names that are followed, other
than those that lead upwards. -/
lemma mem_foldl_follow {directory names : List String} {name : String}
    (h : name ∈ names.foldl follow directory) :
    name ∈ directory ∨ name ∈ names ∧ name ≠ ".." := by
  induction names generalizing directory with
  | nil => exact .inl h
  | cons first rest ih =>
    rcases ih h with hmem | ⟨hmem, hne⟩
    · rw [follow] at hmem
      split at hmem
      · exact .inl (List.dropLast_subset _ hmem)
      · next hfirst =>
        rcases List.mem_append.1 hmem with hmem | hmem
        · exact .inl hmem
        · obtain rfl := List.mem_singleton.1 hmem
          exact .inr ⟨List.mem_cons_self, hfirst⟩
    · exact .inr ⟨List.mem_cons_of_mem _ hmem, hne⟩

/-- Names that do not lead upwards are followed one by one. -/
lemma foldl_follow_of_down {names : List String} (h : ∀ name ∈ names, name ≠ "..")
    (directory : List String) : names.foldl follow directory = directory ++ names := by
  induction names generalizing directory with
  | nil => exact (List.append_nil _).symm
  | cons first rest ih =>
    rw [List.foldl_cons, ih fun name hmem => h name (List.mem_cons_of_mem _ hmem), follow,
      if_neg (h first List.mem_cons_self), List.append_assoc]
    rfl

/-- A resolved path means itself in every directory. -/
theorem resolveFrom_of_isResolved {p : Path} (h : p.IsResolved) (directory : List String) :
    p.resolveFrom directory = p := by
  obtain ⟨hroot, hparts⟩ := h
  rw [resolveFrom, if_neg (by rw [hroot]; exact nofun),
    foldl_follow_of_down fun name hmem => (hparts name hmem).2]
  cases p
  subst hroot
  rfl

/-- The form of a path that was located: resolved, in normal form, and fit for the file system. -/
structure IsLocated (p : Path) : Prop where
  resolved : p.IsResolved
  normal : p.IsNormal
  no_nul : p.hasNul = false

/-- A path in normal form that is fit for the file system is located by resolving it, from a
directory that was located. -/
lemma resolveFrom_isLocated {directory : List String}
    (hdirectory : IsLocated ⟨.absolute, directory⟩) {p : Path} (h : p.IsNormal)
    (hnul : p.hasNul = false) :
    (p.resolveFrom directory).IsLocated := by
  have hmem : ∀ name ∈ (p.resolveFrom directory).parts,
      name ∈ directory ∨ name ∈ p.parts ∧ name ≠ ".." := by
    intro name hname
    rcases mem_foldl_follow hname with hstart | hpart
    · split at hstart
      · exact .inl hstart
      · cases hstart
    · exact .inr hpart
  refine ⟨⟨rfl, fun name hname => ?_⟩, fun name hname => ?_, ?_⟩
  · rcases hmem name hname with hstart | ⟨hpart, hup⟩
    · exact hdirectory.resolved.2 name hstart
    · exact ⟨(h name hpart).ne_dot, hup⟩
  · rcases hmem name hname with hstart | ⟨hpart, -⟩
    · exact hdirectory.normal name hstart
    · exact h name hpart
  · refine List.any_eq_false.2 fun name hname => ?_
    rcases hmem name hname with hstart | ⟨hpart, -⟩
    · exact List.any_eq_false.1 hdirectory.no_nul name hstart
    · exact List.any_eq_false.1 hnul name hpart

end Path

/-! ## Locating a path -/

namespace Host

open WorkTree.Path (IsNormal IsLocated)

/-- The working directory of a host has the form of a path that was located. -/
def IsProper (host : Host) : Prop :=
  IsLocated ⟨.absolute, host.workingDirectory⟩

/-- A path in normal form stays in normal form when a home directory takes the place of `~`. -/
lemma expandHome_isNormal {host : Host} {p q : Path} (h : p.IsNormal)
    (hexpand : host.expandHome p = .ok q) : q.IsNormal := by
  unfold expandHome at hexpand
  split at hexpand
  · split at hexpand
    · cases hexpand
    · split at hexpand
      · cases hexpand
      · split at hexpand
        · cases hexpand
        · obtain rfl := Except.ok.inj hexpand
          intro part hpart
          rcases List.mem_append.1 hpart with hmem | hmem
          · exact Path.ofString_isNormal _ part hmem
          · exact h part (List.mem_of_mem_drop hmem)
  · obtain rfl := Except.ok.inj hexpand
    exact h

/-- **A path in normal form is located in the form of located paths.** -/
theorem locate_isLocated {host : Host} (hhost : host.IsProper) {p q : Path} (h : p.IsNormal)
    (hlocate : host.locate p = .ok q) : q.IsLocated := by
  unfold locate at hlocate
  split at hlocate
  · cases hlocate
  · next expanded hexpand =>
    split at hlocate
    · cases hlocate
    · next hnul =>
      obtain rfl := Except.ok.inj hlocate
      exact Path.resolveFrom_isLocated hhost (expandHome_isNormal h hexpand)
        (Bool.not_eq_true _ ▸ hnul)

/-- **A path of this form is located as it is**, on every host. -/
theorem locate_of_isLocated {p : Path} (h : p.IsLocated) (host : Host) :
    host.locate p = .ok p := by
  have hexpand : host.expandHome p = .ok p := by
    unfold expandHome
    split
    · next hroot _ =>
      rw [h.resolved.1] at hroot
      cases hroot
    · rfl
  rw [locate, hexpand]
  dsimp only
  rw [if_neg (by rw [h.no_nul]; exact nofun), Path.resolveFrom_of_isResolved h.resolved]

end Host

end WorkTree
