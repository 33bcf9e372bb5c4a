import WorkTree.Proofs.Listing.Branches

set_option relaxedAutoImplicit false
set_option autoImplicit false

/-!
# Branches that are taken for pointers

A remote has a pointer to its own branch, which is called `HEAD` there and is no branch. A reader
that passes over whatever ends in `/HEAD` looks at the last component only, and the name of a branch
may have several: behind the name of the remote, `HEAD` is a pointer; behind another component, it
is the end of the name of a branch.

## Main definitions

* `WorkTree.Branch.IsPointer`, `WorkTree.Branch.IsOverlooked` — the names that end in `/HEAD`, with
  one component in front of it and with several.
* `WorkTree.RemoteRef.endsInHead` — the last component of the name of a branch is `HEAD`.

## Main results

* `WorkTree.Branch.isSuffix_slash_iff` — what a text ends in behind a slash is its last component.
* `WorkTree.Branch.ofListing_named_iff` — the branches of remotes are read back exactly when the
  name of none ends in the component `HEAD`.
-/

namespace WorkTree

namespace Branch

/-! ## Components -/

/-- The name of a pointer, within the remote. -/
def headComponent : List Char :=
  ['H', 'E', 'A', 'D']

/-- What is behind the last slash of a text is its last component.

**Proof sketch.** A text is cut at a slash into what its two sides are cut into, and a component is
not cut. Conversely, what stands behind the last slash is a component, and so the last one. -/
lemma isSuffix_slash_iff {component s : List Char} (h : '/' ∉ component) :
    '/' :: component <:+ s ↔ '/' ∈ s ∧ (s.splitOn '/').getLast? = some component := by
  constructor
  · rintro ⟨lead, rfl⟩
    refine ⟨List.mem_append_right _ List.mem_cons_self, ?_⟩
    rw [List.splitOn_append_cons_self, List.splitOn_eq_singleton h, List.getLast?_concat]
  · rintro ⟨hslash, hlast⟩
    -- cut at the last slash
    obtain ⟨tail, lead, hreverse, htail⟩ := List.eq_append_cons_of_mem (List.mem_reverse.2 hslash)
    obtain rfl : s = lead.reverse ++ '/' :: tail.reverse := by
      rw [← List.reverse_reverse s, hreverse]
      simp
    have hflat : '/' ∉ tail.reverse := fun hmem => htail (List.mem_reverse.1 hmem)
    rw [List.splitOn_append_cons_self, List.splitOn_eq_singleton hflat,
      List.getLast?_concat] at hlast
    rw [← Option.some.inj hlast]
    exact List.suffix_append _ _

/-- The name of a pointer: that of a remote, which has no slash, and `HEAD` behind one. -/
def IsPointer (name : List Char) : Prop :=
  ∃ remote, '/' ∉ remote ∧ name = remote ++ headEnding

/-- A name that ends as that of a pointer does, but behind more than one component. -/
def IsOverlooked (name : List Char) : Prop :=
  ∃ lead, '/' ∈ lead ∧ name = lead ++ headEnding

/-- A name that ends as that of a pointer does is one, unless it is overlooked. -/
lemma headEnding_isSuffix_iff {name : List Char} :
    headEnding <:+ name ↔ IsPointer name ∨ IsOverlooked name := by
  constructor
  · rintro ⟨lead, rfl⟩
    by_cases hslash : '/' ∈ lead
    · exact .inr ⟨lead, hslash, rfl⟩
    · exact .inl ⟨lead, hslash, rfl⟩
  · rintro (⟨lead, -, rfl⟩ | ⟨lead, -, rfl⟩) <;> exact List.suffix_append _ _

/-- An overlooked name is not that of a pointer. -/
lemma IsOverlooked.not_isPointer {name : List Char} (h : IsOverlooked name) : ¬ IsPointer name := by
  rintro ⟨remote, hflat, rfl⟩
  obtain ⟨lead, hslash, heq⟩ := h
  obtain rfl := List.append_cancel_right heq
  exact hflat hslash

/-- Behind the root of the remote branches, a name that is passed over is that of a pointer, unless
it is overlooked. -/
lemma isPointer_of_none_iff (current : Option String) (name : List Char) :
    (ofRef? current (remotesRoot ++ name) = none → IsPointer name) ↔ ¬ IsOverlooked name := by
  have hnone : ofRef? current (remotesRoot ++ name) = none ↔ headEnding <:+ name := by
    rw [ofRef?_remotesRoot, ← List.isSuffixOf_iff_suffix]
    split <;> simp [*]
  rw [hnone, headEnding_isSuffix_iff]
  constructor
  · intro h hoverlooked
    exact hoverlooked.not_isPointer (h (.inr hoverlooked))
  · exact fun h hor => hor.resolve_right h

end Branch

/-! ## References -/

namespace RemoteRef

/-- Whether a reference is that of a branch whose name has `HEAD` for its last component. -/
def endsInHead : RemoteRef → Bool
  | .branch _ name => (name.toList.splitOn '/').getLast? = some Branch.headComponent
  | .pointer _ => false

/-- The branch of a remote that a reference is meant for. -/
def meant (ref : RemoteRef) : Branch :=
  { name := ref.name, remote := true }

/-- A reference ends as a pointer does when it is one, or that of a branch whose name ends in the
component `HEAD`. -/
lemma headEnding_isSuffix_name (ref : RemoteRef) :
    Branch.headEnding.isSuffixOf ref.name.toList = !(ref.isBranch && !ref.endsInHead) := by
  have hhead : '/' ∉ Branch.headComponent := by decide
  rw [Bool.eq_iff_iff, List.isSuffixOf_iff_suffix]
  change '/' :: Branch.headComponent <:+ _ ↔ _
  rw [Branch.isSuffix_slash_iff hhead]
  cases ref with
  | branch remote name =>
    have hname : (RemoteRef.branch remote name).name.toList =
        remote.toList ++ '/' :: name.toList := by
      simp [RemoteRef.name]
    have hne : name.toList.splitOn '/' ≠ [] := List.splitOn_ne_nil _ _
    rw [hname, List.splitOn_append_cons_self, List.getLast?_append_of_ne_nil _ hne]
    simp [isBranch, endsInHead]
  | pointer remote =>
    have hname : (RemoteRef.pointer remote).name.toList =
        remote.toList ++ '/' :: Branch.headComponent := by
      simp [RemoteRef.name, Branch.headComponent]
    rw [hname, List.splitOn_append_cons_self, List.splitOn_eq_singleton hhead]
    simp [isBranch]

end RemoteRef

/-! ## Listings -/

namespace Branch

variable {refs : List RemoteRef}

/-- Of the references of remotes, those are read that are branches and whose names do not end in the
component `HEAD`. -/
lemma ofListing_named (hrefs : ∀ ref ∈ refs, ref.IsNamed) (current : Option String) :
    ofListing current (listing (refs.map RemoteRef.text)) =
      (refs.filter fun ref => ref.isBranch && !ref.endsInHead).map RemoteRef.meant := by
  have hunblanked : ∀ line ∈ refs.map RemoteRef.text, ∀ c ∈ line, Text.isBlank c = false :=
    List.forall_mem_map.2 fun ref href => (hrefs ref href).text_unblanked
  rw [ofListing_of_unblanked hunblanked, List.filterMap_map, ← List.filterMap_eq_map,
    List.filterMap_filter]
  refine List.filterMap_congr fun ref _ => ?_
  rw [Function.comp_apply, RemoteRef.text, ofRef?_remotesRoot, ref.headEnding_isSuffix_name]
  cases ref.isBranch && !ref.endsInHead <;> simp [RemoteRef.meant]

/-- **The branches of remotes are read back exactly when the name of none ends in the component
`HEAD`.** Git lists what it knows of remotes: branches with accepted names, of any depth, and
pointers. Those branches are read, in order and with their names, whose last component is not
`HEAD`, so that all are read exactly when there is no other. Among all names behind the root of the
remote branches, only that of a pointer is passed over unless there is more than one component in
front of `HEAD`.

**Proof sketch.** The reader looks at what a name ends in, and what is behind its last slash is its
last component (`isSuffix_slash_iff`): that of the pointer, or the last one of the branch
(`RemoteRef.headEnding_isSuffix_name`). What is read is therefore a part of the branches, and all of
them when it is as long. -/
theorem ofListing_named_iff (hrefs : ∀ ref ∈ refs, ref.IsNamed) (current : Option String) :
    let branches := ofListing current (listing (refs.map RemoteRef.text))
    branches = (refs.filter fun ref => ref.isBranch && !ref.endsInHead).map RemoteRef.meant ∧
      (branches = (refs.filter RemoteRef.isBranch).map RemoteRef.meant ↔
        ∀ ref ∈ refs, ref.endsInHead = false) ∧
      ∀ name, (ofRef? current (remotesRoot ++ name) = none → IsPointer name) ↔
        ¬ IsOverlooked name := by
  intro branches
  have hread : branches =
      (refs.filter fun ref => ref.isBranch && !ref.endsInHead).map RemoteRef.meant :=
    ofListing_named hrefs current
  refine ⟨hread, ?_, isPointer_of_none_iff current⟩
  have hfilter : (refs.filter fun ref => ref.isBranch && !ref.endsInHead) =
      (refs.filter RemoteRef.isBranch).filter fun ref => !ref.endsInHead := by
    rw [List.filter_filter]
    exact List.filter_congr fun ref _ => Bool.and_comm _ _
  rw [hread, hfilter]
  constructor
  · intro heq ref href
    have hlength := congrArg List.length heq
    rw [List.length_map, List.length_map, List.length_filter_eq_length_iff] at hlength
    cases hbranch : ref.isBranch with
    | true => simpa using hlength ref (List.mem_filter.2 ⟨href, hbranch⟩)
    | false =>
      cases ref with
      | branch remote name => cases hbranch
      | pointer remote => rfl
  · intro h
    rw [List.filter_eq_self.2 fun ref href => by simp [h ref (List.mem_filter.1 href).1]]

/-- The pointer of a remote stands between branches of it, one of which has a component `HEAD` that
is not the last one. -/
theorem ofListing_named_iff_inner :
    let refs := [RemoteRef.branch "origin" "HEAD/fix", .pointer "origin", .branch "origin" "é/x"]
    let branches := ofListing (some "main") (listing (refs.map RemoteRef.text))
    ((∀ ref ∈ refs, ref.IsNamed) ∧ ∀ ref ∈ refs, ref.endsInHead = false) ∧
      branches = [{ name := "origin/HEAD/fix", remote := true },
        { name := "origin/é/x", remote := true }] ∧
      branches = (refs.filter RemoteRef.isBranch).map RemoteRef.meant := by
  intro refs branches
  have hnamed : ∀ ref ∈ refs, ref.IsNamed := by
    refine List.forall_mem_cons.2 ⟨.branch (by decide) (by decide) (by decide), ?_⟩
    refine List.forall_mem_cons.2 ⟨.pointer (by decide) (by decide), ?_⟩
    exact List.forall_mem_singleton.2 (.branch (by decide) (by decide) (by decide))
  have hends : ∀ ref ∈ refs, ref.endsInHead = false := by decide
  have hread := (ofListing_named_iff hnamed (some "main")).2.1.2 hends
  exact ⟨⟨hnamed, hends⟩, hread, hread⟩

/-- The branch `feature/HEAD` of a remote has an accepted name, but it is not read, although its
reference is not that of a pointer. -/
theorem ofListing_overlooks_nested :
    let ref := RemoteRef.branch "origin" "feature/HEAD"
    let branches := ofListing none (listing [ref.text])
    ref.IsNamed ∧ ¬ IsPointer ref.name.toList ∧ branches = [] ∧
      branches ≠ [{ name := "origin/feature/HEAD", remote := true }] := by
  intro ref branches
  have hoverlooked : IsOverlooked ref.name.toList :=
    ⟨"origin/feature".toList, by decide, by decide⟩
  have hread : branches = [] := by decide
  refine ⟨.branch (by decide) (by decide) (by decide), hoverlooked.not_isPointer, hread, ?_⟩
  rw [hread]
  exact (List.cons_ne_nil _ _).symm

end Branch

end WorkTree
