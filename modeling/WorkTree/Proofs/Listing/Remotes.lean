import WorkTree.Proofs.Repetitions
import WorkTree.Proofs.Text.Line
import WorkTree.Session.Reads

set_option relaxedAutoImplicit false
set_option autoImplicit false

/-!
# Names in a listing of remotes

The names in a listing are the first words of its lines, each once, in the order of their first
lines. Git prints two lines for every remote, with the name in front, so that the names in what it
prints are those of the remotes, also when the blanks at the end are trimmed.

## Main definitions

* `WorkTree.Text.IsFirstWord` — a word is the first one of a line, said without looking for it.
* `WorkTree.Remote.firstLine` — the first line of a listing that begins with a word.
* `WorkTree.Remote.IsProper` — remotes as git has them.

## Main results

* `WorkTree.Text.firstWord?_eq_some_iff` — the word that is found is the first one.
* `WorkTree.Remote.firstWords_of_lines` — the first words of what git prints are the names, each
  twice.
* `WorkTree.Remote.names_roundTrip` — the names in any listing, and in one that git prints.
-/

namespace WorkTree

/-! ## First words -/

namespace Text

/-- A word is the first one of a line: it is not empty and without blanks, in front of it there are
only blanks, and behind it the line ends or there is a blank. -/
def IsFirstWord (word line : List Char) : Prop :=
  ∃ lead rest, line = lead ++ word ++ rest ∧ (∀ c ∈ lead, isBlank c = true) ∧ word ≠ [] ∧
    (∀ c ∈ word, isBlank c = false) ∧ ∀ c, rest.head? = some c → isBlank c = true

/-- What stands up to the first blank is found as a whole. -/
lemma takeWhile_of_blank_behind {word rest : List Char} (hword : ∀ c ∈ word, isBlank c = false)
    (hrest : ∀ c, rest.head? = some c → isBlank c = true) :
    (word ++ rest).takeWhile (fun c => !isBlank c) = word := by
  rw [List.takeWhile_append_of_pos fun c hc => by rw [hword c hc]; rfl]
  cases rest with
  | nil => simp
  | cons c rest => simp [hrest c rfl]

/-- **The word that is found is the first one.** -/
lemma firstWord?_eq_some_iff {word line : List Char} :
    firstWord? line = some word ↔ IsFirstWord word line := by
  constructor
  · intro h
    have hcut : line.takeWhile isBlank ++ trimStart line = line := List.takeWhile_append_dropWhile
    have hstart : NoBlankAtStart (trimStart line) := fun c hc => isBlank_of_head_trimStart hc
    rw [firstWord?] at h
    generalize trimStart line = s at h hcut hstart
    cases s with
    | nil => cases h
    | cons c s =>
      obtain rfl := Option.some.inj h
      refine ⟨line.takeWhile isBlank, (c :: s).dropWhile fun d => !isBlank d, ?_, ?_, ?_, ?_, ?_⟩
      · rw [List.append_assoc, List.takeWhile_append_dropWhile, hcut]
      · exact fun d hd => List.mem_takeWhile_imp hd
      · simp [hstart c rfl]
      · exact fun d hd => by simpa using List.mem_takeWhile_imp hd
      · intro d hd
        have hnot := List.head?_dropWhile_not (fun d => !isBlank d) (c :: s)
        rw [hd] at hnot
        simpa using hnot
  · rintro ⟨lead, rest, rfl, hlead, hne, hword, hrest⟩
    have hskip : trimStart (lead ++ word ++ rest) = word ++ rest := by
      have hstart : NoBlankAtStart (word ++ rest) := by
        intro c hc
        rw [List.head?_append_of_ne_nil _ hne] at hc
        exact hword c (List.mem_of_mem_head? hc)
      rw [List.append_assoc, trimStart, List.dropWhile_append_of_pos hlead]
      exact trimStart_of_head hstart
    have hfound := takeWhile_of_blank_behind hword hrest
    rw [firstWord?, hskip]
    cases hs : word ++ rest with
    | nil => exact absurd (List.append_eq_nil_iff.1 hs).1 hne
    | cons c s =>
      rw [hs] at hfound
      exact congrArg some hfound

instance decidableIsFirstWord (word line : List Char) : Decidable (IsFirstWord word line) :=
  decidable_of_iff _ firstWord?_eq_some_iff

end Text

/-! ## Listings -/

namespace Remote

/-- The number of the first line of a listing that has a word for its first one. -/
def firstLine (listing word : String) : Nat :=
  (Text.lines listing.toList).findIdx fun line => Text.IsFirstWord word.toList line

/-- The first word of a line, as a text. -/
lemma map_firstWord?_eq_some_iff {line : List Char} {word : String} :
    (Text.firstWord? line).map String.ofList = some word ↔ Text.IsFirstWord word.toList line := by
  rw [Option.map_eq_some_iff]
  constructor
  · rintro ⟨found, hfound, rfl⟩
    rw [String.toList_ofList]
    exact Text.firstWord?_eq_some_iff.1 hfound
  · intro h
    exact ⟨word.toList, Text.firstWord?_eq_some_iff.2 h, String.ofList_toList⟩

/-- A word is a name in a listing when it is the first one of a line. -/
lemma mem_namesIn_iff {listing word : String} :
    word ∈ namesIn listing ↔
      ∃ line ∈ Text.lines listing.toList, Text.IsFirstWord word.toList line := by
  rw [namesIn, List.mem_eraseDups, firstWords, List.mem_filterMap]
  exact exists_congr fun line => and_congr_right fun _ => map_firstWord?_eq_some_iff

/-- The names stand in the order of their first lines. -/
lemma pairwise_firstLine (listing : String) :
    (namesIn listing).Pairwise fun name name' =>
      firstLine listing name < firstLine listing name' := by
  have hfirst : ∀ word, firstLine listing word = (Text.lines listing.toList).findIdx fun line =>
      (Text.firstWord? line).map String.ofList = some word := by
    intro word
    rw [firstLine]
    congr 1
    funext line
    exact decide_eq_decide.2 map_firstWord?_eq_some_iff.symm
  simp only [hfirst]
  exact pairwise_findIdx_eraseDups _ _

/-! ## What git prints -/

/-- A remote and its address as git has them: the name is not empty and without blanks, and no line
breaks within the address. -/
@[mk_iff]
structure IsProper (remote : String × String) : Prop where
  name_ne : remote.1.toList ≠ []
  unblanked : ∀ c ∈ remote.1.toList, Text.isBlank c = false
  unbroken : ∀ c ∈ remote.2.toList, Text.isLineBreak c = false

instance decidableIsProper (remote : String × String) : Decidable (IsProper remote) :=
  haveI (s : List Char) (p : Char → Prop) [DecidablePred p] : Decidable (∀ c ∈ s, p c) :=
    s.decidableBAll p
  decidable_of_iff _ (isProper_iff remote).symm

/-- What the lines of a remote end in. -/
def directions : List String :=
  [" (fetch)", " (push)"]

/-- The line of a remote for one of the directions. -/
def lineFor (remote : String × String) (direction : String) : List Char :=
  remote.1.toList ++ '\t' :: (remote.2.toList ++ direction.toList)

/-- The lines of some remotes. -/
def linesOf (remotes : List (String × String)) : List (List Char) :=
  remotes.flatMap fun remote => directions.map (lineFor remote)

/-- The listing of some remotes has their lines, each with a line feed. -/
lemma toList_listing (remotes : List (String × String)) :
    (listing remotes).toList = (linesOf remotes).flatMap fun line => line ++ ['\n'] := by
  rw [listing, String.toList_join, List.flatMap_map, linesOf, List.flatMap_assoc]
  refine List.flatMap_congr fun remote _ => ?_
  simp [linesFor, lineFor, directions]

section Proper

variable {remote : String × String} {direction : String}

/-- No line breaks within the line of a remote that is in order. -/
lemma IsProper.lineFor_unbroken (h : IsProper remote) (hdirection : direction ∈ directions) :
    ∀ c ∈ lineFor remote direction, Text.isLineBreak c = false := by
  have hdirections : ∀ direction ∈ directions,
      direction.toList.any Text.isLineBreak = false := by decide
  have hends : ∀ c ∈ direction.toList, Text.isLineBreak c = false := by
    simpa using hdirections direction hdirection
  refine List.forall_mem_append.2 ⟨fun c hc => ?_, List.forall_mem_cons.2 ⟨by decide, ?_⟩⟩
  · exact Text.isLineBreak_of_not_isBlank (h.unblanked c hc)
  · exact List.forall_mem_append.2 ⟨h.unbroken, hends⟩

/-- The line of a remote does not end in a blank. -/
lemma lineFor_ending (hdirection : direction ∈ directions) :
    Text.NoBlankAtEnd (lineFor remote direction) := by
  have hdirections : ∀ direction ∈ directions,
      direction.toList ≠ [] ∧ Text.NoBlankAtEnd direction.toList := by decide
  obtain ⟨hne, hending⟩ := hdirections direction hdirection
  intro c hc
  rw [lineFor, List.getLast?_append_of_ne_nil _ (List.cons_ne_nil _ _), List.getLast?_cons,
    List.getLast?_append_of_ne_nil _ hne] at hc
  refine hending c ?_
  rwa [List.getLast?_eq_some_getLast hne] at hc ⊢

/-- The first word on the line of a remote that is in order is its name. -/
lemma IsProper.isFirstWord (h : IsProper remote) :
    Text.IsFirstWord remote.1.toList (lineFor remote direction) := by
  refine ⟨[], '\t' :: (remote.2.toList ++ direction.toList), rfl, nofun, h.name_ne, h.unblanked, ?_⟩
  rintro c hc
  obtain rfl := Option.some.inj hc
  decide

end Proper

variable {remotes : List (String × String)}

/-- The lines of what git prints are those of the remotes, also when the blanks at the end are
trimmed. -/
lemma lines_listing (h : ∀ remote ∈ remotes, IsProper remote) :
    Text.lines (listing remotes).toList = linesOf remotes ∧
      Text.lines (Text.stripEnd (listing remotes)).toList = linesOf remotes := by
  have hline : ∀ line ∈ linesOf remotes, ∃ remote direction,
      IsProper remote ∧ direction ∈ directions ∧ line = lineFor remote direction := by
    intro line hline
    obtain ⟨remote, hremote, hline⟩ := List.mem_flatMap.1 hline
    obtain ⟨direction, hdirection, rfl⟩ := List.mem_map.1 hline
    exact ⟨remote, direction, h remote hremote, hdirection, rfl⟩
  have hunbroken : ∀ line ∈ linesOf remotes, ∀ c ∈ line, Text.isLineBreak c = false := by
    intro line hmem
    obtain ⟨remote, direction, hproper, hdirection, rfl⟩ := hline line hmem
    exact hproper.lineFor_unbroken hdirection
  rw [Text.stripEnd, String.toList_ofList, toList_listing]
  refine ⟨Text.lines_flatMap_lineFeed hunbroken,
    Text.lines_trimEnd_flatMap_lineFeed hunbroken fun line hlast => ?_⟩
  obtain ⟨remote, direction, -, hdirection, rfl⟩ := hline line (List.mem_of_getLast? hlast)
  exact ⟨by simp [lineFor], lineFor_ending hdirection⟩

/-- The names in a listing with the lines of some remotes are those of the remotes, each once. -/
lemma namesIn_of_lines (h : ∀ remote ∈ remotes, IsProper remote) {text : String}
    (hlines : Text.lines text.toList = linesOf remotes) :
    namesIn text = (remotes.map Prod.fst).eraseDups := by
  have hwords : firstWords text = remotes.flatMap fun remote => [remote.1, remote.1] := by
    rw [firstWords, hlines, linesOf, List.filterMap_flatMap]
    refine List.flatMap_congr fun remote hremote => ?_
    have hname : ∀ direction, (Text.firstWord? (lineFor remote direction)).map String.ofList =
        some remote.1 :=
      fun direction => map_firstWord?_eq_some_iff.2 (h remote hremote).isFirstWord
    simp [directions, hname]
  rw [namesIn, hwords, eraseDups_flatMap_twice]

/-- **The names of remotes are the first words of the lines, each once, in the order of their first
lines**, whatever the text. In the listing that git prints of some remotes they are the names of
these, without later repetitions, also when the blanks at the end are trimmed.

**Proof sketch.** The word that is found in a line is the first one (`Text.firstWord?_eq_some_iff`),
and of equal words the first one is kept (`nodup_eraseDups`, `pairwise_findIdx_eraseDups`). No line
breaks within a name or an address, and the last line ends in a bracket, so that the lines are those
that were printed (`lines_listing`); each name is found twice, and then once. -/
theorem names_inOrder :
    (∀ info : RemotesInfo, info.names.Nodup ∧
      (∀ word, word ∈ info.names ↔
        ∃ line ∈ Text.lines info.remotes.toList, Text.IsFirstWord word.toList line) ∧
      info.names.Pairwise fun name name' =>
        firstLine info.remotes name < firstLine info.remotes name') ∧
    ∀ remotes : List (String × String), (∀ remote ∈ remotes, IsProper remote) → ∀ cached,
      RemotesInfo.names ⟨listing remotes, cached⟩ = (remotes.map Prod.fst).eraseDups ∧
      RemotesInfo.names ⟨Text.stripEnd (listing remotes), cached⟩ =
        (remotes.map Prod.fst).eraseDups := by
  refine ⟨fun info => ?_, fun remotes h cached => ?_⟩
  · exact ⟨nodup_eraseDups _, fun word => mem_namesIn_iff, pairwise_firstLine info.remotes⟩
  · obtain ⟨hlines, htrimmed⟩ := lines_listing h
    exact ⟨namesIn_of_lines h hlines, namesIn_of_lines h htrimmed⟩

/-- Three remotes, two of them of one name and with another one between them, and an address with
spaces. -/
theorem names_inOrder_repeated :
    let remotes := [("origin", "git@host:a.git"), ("é", ""), ("origin", " b c")]
    let text := "origin\tgit@host:a.git (fetch)\norigin\tgit@host:a.git (push)\n" ++
      "é\t (fetch)\né\t (push)\norigin\t b c (fetch)\norigin\t b c (push)\n"
    (∀ remote ∈ remotes, IsProper remote) ∧ listing remotes = text ∧
      RemotesInfo.names ⟨Text.stripEnd text, false⟩ = ["origin", "é"] := by
  intro remotes text
  have hproper : ∀ remote ∈ remotes, IsProper remote := by decide
  have htext : listing remotes = text := by decide
  have hnames := (names_inOrder.2 remotes hproper false).2
  rw [htext] at hnames
  exact ⟨hproper, htext, hnames⟩

end Remote

end WorkTree
