import Mathlib.Data.List.Nodup
import WorkTree.BranchName.Basic
import WorkTree.Proofs.Text.Line
import WorkTree.Session.Branches

set_option relaxedAutoImplicit false
set_option autoImplicit false

/-!
# Reading back a listing of branches

Git lists local branches and then what it knows of remotes, one full reference per line. A name that
is accepted for a branch holds no blank and so no line break: nothing of it is trimmed, and its line
stays whole. The references are therefore read back as they were printed, save the pointers to the
remotes' own branches, which are no branches.

## Main definitions

* `WorkTree.BranchName.IsAccepted` — the names that are valid on their own.
* `WorkTree.RemoteRef` — what git lists of a remote: a branch of it, or the pointer.
* `WorkTree.Branch.printed`, `WorkTree.Branch.listed` — the references that are printed, and the
  branches that are to be found among them.

## Main results

* `WorkTree.Branch.ofListing_printed` — the branches are read back, each with its name, in order.
* `WorkTree.Branch.listing_roundTrip` — the same, with which of them is the current one and which
  are found by their names.
-/

namespace WorkTree

/-! ## Accepted names -/

namespace BranchName

/-- The names that are valid on their own, without a text in front of them. -/
def IsAccepted (name : String) : Prop :=
  (validate name).valid = true

instance (name : String) : Decidable (IsAccepted name) :=
  inferInstanceAs (Decidable (_ = true))

/-- No character of an accepted name is a blank. -/
lemma IsAccepted.unblanked {name : String} (h : IsAccepted name) :
    ∀ c ∈ name.toList, Text.isBlank c = false := by
  have hformat : breaksFormat name.toList = false := by
    simp only [IsAccepted, Validation.valid, validate, violations, violationsOf,
      List.isEmpty_iff, List.append_eq_nil_iff] at h
    have hlast := h.2
    by_cases hempty : name.toList = []
    · rw [hempty]
      decide
    · simpa [hempty] using hlast
  have hforbidden : name.toList.any isForbidden = false := by
    simp only [breaksFormat, Bool.or_eq_false_iff] at hformat
    exact hformat.1.1.1.1.1.1.1.1.1.1
  intro c hc
  have hc := List.any_eq_false.1 hforbidden c hc
  simp only [isForbidden, Bool.or_eq_true, not_or, Bool.not_eq_true] at hc
  exact hc.1.1.1

end BranchName

/-! ## References of remotes -/

/-- What git lists of a remote: a branch of it, or the pointer to its own branch. -/
inductive RemoteRef where
  | branch (remote name : String)
  | pointer (remote : String)
  deriving DecidableEq, Repr

namespace RemoteRef

/-- The name of a reference: that of the remote, and behind a slash that of the branch. -/
def name : RemoteRef → String
  | .branch remote name => remote ++ "/" ++ name
  | .pointer remote => remote ++ "/HEAD"

/-- Whether a reference is that of a branch. -/
def isBranch : RemoteRef → Bool
  | .branch _ _ => true
  | .pointer _ => false

/-- The reference as it is printed. -/
def text (ref : RemoteRef) : List Char :=
  Branch.remotesRoot ++ ref.name.toList

/-- The references whose names are accepted: the remote has an accepted name without a slash, and a
branch has an accepted one. -/
inductive IsNamed : RemoteRef → Prop where
  | branch {remote name : String} (hremote : BranchName.IsAccepted remote)
      (hflat : '/' ∉ remote.toList) (hname : BranchName.IsAccepted name) :
      IsNamed (.branch remote name)
  | pointer {remote : String} (hremote : BranchName.IsAccepted remote)
      (hflat : '/' ∉ remote.toList) : IsNamed (.pointer remote)

/-- The references that are in order: the remote has an accepted name without a slash, a branch has
an accepted one, and it does not end as a pointer does. -/
inductive IsProper : RemoteRef → Prop where
  | branch {remote name : String} (hremote : BranchName.IsAccepted remote)
      (hflat : '/' ∉ remote.toList) (hname : BranchName.IsAccepted name)
      (hending : ¬ Branch.headEnding <:+ (RemoteRef.branch remote name).name.toList) :
      IsProper (.branch remote name)
  | pointer {remote : String} (hremote : BranchName.IsAccepted remote)
      (hflat : '/' ∉ remote.toList) : IsProper (.pointer remote)

/-- The names of a reference that is in order are accepted. -/
lemma IsProper.isNamed {ref : RemoteRef} (h : ref.IsProper) : ref.IsNamed := by
  cases h with
  | branch hremote hflat hname _ => exact .branch hremote hflat hname
  | pointer hremote hflat => exact .pointer hremote hflat

/-- No character of a reference whose names are accepted is a blank. -/
lemma IsNamed.unblanked {ref : RemoteRef} (h : ref.IsNamed) :
    ∀ c ∈ ref.name.toList, Text.isBlank c = false := by
  have hslash : ∀ c ∈ "/".toList, Text.isBlank c = false :=
    Text.isBlank_eq_false_of_any (by decide)
  have hhead : ∀ c ∈ "/HEAD".toList, Text.isBlank c = false :=
    Text.isBlank_eq_false_of_any (by decide)
  cases h with
  | branch hremote _ hname =>
    rw [name, String.toList_append, String.toList_append]
    intro c hc
    rcases List.mem_append.1 hc with hc | hc
    · rcases List.mem_append.1 hc with hc | hc
      · exact hremote.unblanked c hc
      · exact hslash c hc
    · exact hname.unblanked c hc
  | pointer hremote _ =>
    rw [name, String.toList_append]
    intro c hc
    rcases List.mem_append.1 hc with hc | hc
    · exact hremote.unblanked c hc
    · exact hhead c hc

/-- Neither is one of the reference as it is printed. -/
lemma IsNamed.text_unblanked {ref : RemoteRef} (h : ref.IsNamed) :
    ∀ c ∈ ref.text, Text.isBlank c = false := by
  have hroot : ∀ c ∈ Branch.remotesRoot, Text.isBlank c = false :=
    Text.isBlank_eq_false_of_any (by decide)
  exact List.forall_mem_append.2 ⟨hroot, h.unblanked⟩

/-- A reference that is in order ends as a pointer does exactly when it is one. -/
lemma IsProper.headEnding_isSuffix {ref : RemoteRef} (h : ref.IsProper) :
    Branch.headEnding.isSuffixOf ref.name.toList = !ref.isBranch := by
  cases h with
  | branch _ _ _ hending =>
    rw [isBranch, Bool.not_true, ← Bool.not_eq_true, List.isSuffixOf_iff_suffix]
    exact hending
  | @pointer remote _ _ =>
    rw [isBranch, Bool.not_false, List.isSuffixOf_iff_suffix, name, String.toList_append]
    exact List.suffix_append remote.toList Branch.headEnding

end RemoteRef

/-! ## Listings -/

namespace Branch

/-- What follows a text is found behind it. -/
@[simp]
lemma after?_append (lead s : List Char) : after? lead (lead ++ s) = some s := by
  induction lead with
  | nil => rfl
  | cons c lead ih => rw [List.cons_append, after?, if_pos rfl, ih]

/-- What is behind the root of the remote branches is not behind the one of the local branches. -/
@[simp]
lemma after?_headsRoot_remotesRoot (s : List Char) : after? headsRoot (remotesRoot ++ s) = none :=
  rfl

/-- The reference of a local branch stands for it. -/
lemma ofRef?_local (current : Option String) (name : String) :
    ofRef? current (ref { name }) = some { name, current := current = some name } := by
  simp [ofRef?, ref]

/-- A reference of a remote stands for a branch unless its name ends as that of a pointer does. -/
lemma ofRef?_remotesRoot (current : Option String) (name : List Char) :
    ofRef? current (remotesRoot ++ name) =
      if headEnding.isSuffixOf name then none
      else some { name := String.ofList name, remote := true } := by
  simp [ofRef?]

/-- The reference of a remote stands for its branch, unless it is a pointer. -/
lemma ofRef?_remote (current : Option String) {ref : RemoteRef} (h : ref.IsProper) :
    ofRef? current ref.text =
      if ref.isBranch then some { name := ref.name, remote := true } else none := by
  rw [RemoteRef.text, ofRef?_remotesRoot, h.headEnding_isSuffix, String.ofList_toList]
  cases ref.isBranch <;> rfl

/-- The references that git prints: those of local branches, and then those of remotes. -/
def printed (names : List String) (refs : List RemoteRef) : List (List Char) :=
  (names.map fun name => ref { name }) ++ refs.map RemoteRef.text

/-- The branches among the references that git prints. -/
def listed (current : Option String) (names : List String) (refs : List RemoteRef) : List Branch :=
  (names.map fun name => { name, current := current = some name }) ++
    (refs.filter RemoteRef.isBranch).map fun ref => { name := ref.name, remote := true }

variable {names : List String} {refs : List RemoteRef}

/-- No character of the references that git prints is a blank. -/
lemma printed_unblanked (hnames : ∀ name ∈ names, BranchName.IsAccepted name)
    (hrefs : ∀ ref ∈ refs, ref.IsProper) :
    ∀ line ∈ printed names refs, ∀ c ∈ line, Text.isBlank c = false := by
  have hroot : ∀ c ∈ headsRoot, Text.isBlank c = false :=
    Text.isBlank_eq_false_of_any (by decide)
  intro line hline
  rcases List.mem_append.1 hline with hline | hline
  · obtain ⟨name, hname, rfl⟩ := List.mem_map.1 hline
    exact List.forall_mem_append.2 ⟨hroot, (hnames name hname).unblanked⟩
  · obtain ⟨ref, href, rfl⟩ := List.mem_map.1 hline
    exact (hrefs ref href).isNamed.text_unblanked

/-- From references without a blank, one per line, those are read that stand for branches.

**Proof sketch.** A line that holds no blank holds no line break, so that every reference is one
line, and nothing of it is trimmed. -/
lemma ofListing_of_unblanked {lines : List (List Char)}
    (h : ∀ line ∈ lines, ∀ c ∈ line, Text.isBlank c = false) (current : Option String) :
    ofListing current (listing lines) = lines.filterMap (ofRef? current) := by
  have hlines : Text.lines (listing lines).toList = lines := by
    rw [listing, String.toList_ofList]
    refine Text.lines_flatMap_lineFeed fun line hline c hc => ?_
    exact Text.isLineBreak_of_not_isBlank (h line hline c hc)
  rw [ofListing, hlines]
  refine List.filterMap_congr fun line hline => ?_
  rw [Text.trim_of_unblanked (h line hline)]

/-- The branches are read back from the references that git prints, each with its name, in order.

**Proof sketch.** No line holds a blank (`printed_unblanked`), so that every reference is read
(`ofListing_of_unblanked`). Each stands for its branch (`ofRef?_local`, `ofRef?_remote`). -/
lemma ofListing_printed (hnames : ∀ name ∈ names, BranchName.IsAccepted name)
    (hrefs : ∀ ref ∈ refs, ref.IsProper) (current : Option String) :
    ofListing current (listing (printed names refs)) = listed current names refs := by
  have hremote : refs.filterMap (fun ref => ofRef? current ref.text) =
      (refs.filter RemoteRef.isBranch).map fun ref => { name := ref.name, remote := true } := by
    rw [← List.filterMap_eq_map, List.filterMap_filter]
    refine List.filterMap_congr fun ref href => ?_
    rw [ofRef?_remote current (hrefs ref href)]
    rfl
  rw [ofListing_of_unblanked (printed_unblanked hnames hrefs), printed, List.filterMap_append,
    List.filterMap_map, List.filterMap_map, listed, ← List.filterMap_eq_map]
  exact congrArg₂ _ (List.filterMap_congr fun name _ => ofRef?_local current name) hremote

/-- One local branch is the current one if that is in the listing, and otherwise none is.

**Proof sketch.** No branch of a remote is the current one, and the names of the local ones are
distinct. -/
lemma countP_current_listed (hdistinct : names.Nodup) (current : Option String) :
    (listed current names refs).countP Branch.current =
      if ∃ name ∈ names, current = some name then 1 else 0 := by
  have hremote : ((refs.filter RemoteRef.isBranch).map fun ref =>
      ({ name := ref.name, remote := true } : Branch)).countP Branch.current = 0 := by
    rw [List.countP_map]
    exact List.countP_eq_zero.2 (by simp)
  rw [listed, List.countP_append, hremote, List.countP_map, Nat.add_zero]
  cases current with
  | none => simp
  | some name =>
    have hcount : names.countP (Branch.current ∘ fun name' =>
        { name := name', current := some name = some name' }) = names.count name := by
      rw [List.count]
      refine List.countP_congr fun name' _ => ?_
      simp only [Function.comp_apply, Option.some.injEq, decide_eq_true_eq, beq_iff_eq]
      exact eq_comm
    rw [hcount]
    split
    · next h =>
      obtain ⟨_, hmem, heq⟩ := h
      obtain rfl := Option.some.inj heq
      exact List.count_eq_one_of_mem hdistinct hmem
    · next h => exact List.count_eq_zero.2 fun hmem => h ⟨name, hmem, rfl⟩

/-- A local branch is found by its name, also when a branch of a remote is called the same. -/
lemma find?_listed (current : Option String) {name : String} (h : name ∈ names) :
    find? (listed current names refs) name = some { name, current := current = some name } := by
  let describe : String → Branch := fun name => { name, current := current = some name }
  have hsome : ((names.map describe).find? fun branch => branch.name = name).isSome :=
    List.find?_isSome.2 ⟨describe name, List.mem_map_of_mem h, decide_eq_true rfl⟩
  obtain ⟨branch, hbranch⟩ := Option.isSome_iff_exists.1 hsome
  have hname : branch.name = name := by simpa using List.find?_some hbranch
  obtain ⟨name', _, rfl⟩ := List.mem_map.1 (List.mem_of_find?_eq_some hbranch)
  -- the local branches stand first, and only one name is `name`
  rw [find?, listed, List.find?_append, hbranch, ← hname]
  rfl

/-- **A listing is read back.** Git lists local branches with distinct names that are accepted, and
then what it knows of remotes: branches with accepted names, none called as a pointer is, and
pointers wherever they stand. The branches that are read are the local ones and then those of the
remotes, in order and with their names, and no pointer; the current one is the local branch of that
name, so that there is one if the name is in the listing and otherwise none; and a local branch is
found by its name, even when a branch of a remote is called the same.

**Proof sketch.** No accepted name holds a blank, hence none holds a line break: every reference is
one line, of which nothing is trimmed (`ofListing_printed`). What is said of the current branch and
of looking a name up is then said of the branches that were listed (`countP_current_listed`,
`find?_listed`). -/
theorem listing_roundTrip (hnames : ∀ name ∈ names, BranchName.IsAccepted name)
    (hdistinct : names.Nodup) (hrefs : ∀ ref ∈ refs, ref.IsProper) (current : Option String) :
    let branches := ofListing current (listing (printed names refs))
    branches = listed current names refs ∧
      branches.countP Branch.current = (if ∃ name ∈ names, current = some name then 1 else 0) ∧
      ∀ name ∈ names, BranchListing.find? ⟨branches, current⟩ name =
        some { name, current := current = some name } := by
  intro branches
  have hread : branches = listed current names refs := ofListing_printed hnames hrefs current
  rw [hread]
  exact ⟨rfl, countP_current_listed hdistinct current, fun name hmem => find?_listed current hmem⟩

/-- A local branch and a branch of a remote are both called `origin/x`, and the pointer of that
remote stands before its branch. -/
theorem listing_roundTrip_sameName :
    let names := ["main", "origin/x"]
    let refs := [RemoteRef.pointer "origin", RemoteRef.branch "origin" "x"]
    let branches := ofListing (some "main") (listing (printed names refs))
    ((∀ name ∈ names, BranchName.IsAccepted name) ∧ names.Nodup ∧ ∀ ref ∈ refs, ref.IsProper) ∧
      branches = listed (some "main") names refs ∧
      branches.countP Branch.current = (if ∃ name ∈ names, some "main" = some name then 1 else 0) ∧
      ∀ name ∈ names, BranchListing.find? ⟨branches, some "main"⟩ name =
        some { name, current := some "main" = some name } := by
  intro names refs
  have hnames : ∀ name ∈ names, BranchName.IsAccepted name := by decide
  have hdistinct : names.Nodup := by decide
  have hrefs : ∀ ref ∈ refs, ref.IsProper := by
    have hpointer : (RemoteRef.pointer "origin").IsProper :=
      .pointer (by decide) (by decide)
    have hbranch : (RemoteRef.branch "origin" "x").IsProper :=
      .branch (by decide) (by decide) (by decide) (by decide)
    exact List.forall_mem_cons.2 ⟨hpointer, List.forall_mem_singleton.2 hbranch⟩
  exact ⟨⟨hnames, hdistinct, hrefs⟩, listing_roundTrip hnames hdistinct hrefs (some "main")⟩

end Branch

end WorkTree
