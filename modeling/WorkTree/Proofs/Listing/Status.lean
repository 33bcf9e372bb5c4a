import Mathlib.Tactic.MkIffOfInductiveProp
import WorkTree.Listing.Status
import WorkTree.Proofs.Text.Line

set_option relaxedAutoImplicit false
set_option autoImplicit false

/-!
# Reading back a listing of changes

Git prints a changed file on a line of its own: two columns, a space and the path. A column may be
blank, that of the first line too, so that the listing is trimmed only at its end before it is kept.
There it ends in a path and a line feed. What is kept is therefore read as it was printed, whatever
stands in the paths.

## Main definitions

* `WorkTree.Change.Printed` — what git prints of a changed file: two columns and a path.
* `WorkTree.Change.Printed.change` — the change that is to be read from it.

## Main results

* `WorkTree.Change.ofStatus_stripEnd_printed` — the changes are read back from the trimmed listing.
-/

namespace WorkTree.Change

/-- What git prints of a changed file: two columns and a path. -/
structure Printed where
  first : Char
  second : Char
  path : String

namespace Printed

/-- The line that is printed. -/
def line (entry : Printed) : List Char :=
  Change.line entry.first entry.second entry.path.toList

/-- The change that is to be read from the line: the columns without blanks around them, and the
path as it is. -/
def change (entry : Printed) : Change :=
  ⟨Text.strip (String.ofList [entry.first, entry.second]), entry.path⟩

/-- An entry is in order when no line breaks within it, and its path is not empty and does not end
in a blank. -/
@[mk_iff]
structure IsProper (entry : Printed) : Prop where
  first : Text.isLineBreak entry.first = false
  second : Text.isLineBreak entry.second = false
  path_ne : entry.path.toList ≠ []
  unbroken : ∀ c ∈ entry.path.toList, Text.isLineBreak c = false
  ending : Text.NoBlankAtEnd entry.path.toList

instance decidableIsProper (entry : Printed) : Decidable entry.IsProper :=
  haveI (p : Char → Prop) [DecidablePred p] : Decidable (∀ c ∈ entry.path.toList, p c) :=
    entry.path.toList.decidableBAll p
  decidable_of_iff _ (isProper_iff entry).symm

/-- No line breaks within the line of an entry that is in order. -/
lemma IsProper.line_unbroken {entry : Printed} (h : entry.IsProper) :
    ∀ c ∈ entry.line, Text.isLineBreak c = false :=
  List.forall_mem_cons.2 ⟨h.first, List.forall_mem_cons.2
    ⟨h.second, List.forall_mem_cons.2 ⟨by decide, h.unbroken⟩⟩⟩

/-- The line of an entry that is in order does not end in a blank. -/
lemma IsProper.line_ending {entry : Printed} (h : entry.IsProper) :
    Text.NoBlankAtEnd entry.line := by
  intro c hc
  refine h.ending c ?_
  rwa [← List.getLast?_append_of_ne_nil [entry.first, entry.second, ' '] h.path_ne]

/-- The change is read from the line. -/
lemma ofLine_line (entry : Printed) : ofLine entry.line = entry.change := by
  simp [ofLine, line, Change.line, change, Text.strip]

end Printed

/-- The listing of some changed files. -/
def printed (entries : List Printed) : String :=
  listing (entries.map Printed.line)

/-- **The changes are read back** from the listing without the blanks at its end, with their codes
and paths, in order.

**Proof sketch.** The trimming takes the last line feed and nothing else, since the last path does
not end in a blank (`Text.lines_trimEnd_flatMap_lineFeed`). No line breaks within an entry, and none
is empty, so that the lines are those of the entries; the columns and the path are found at fixed
places (`Printed.ofLine_line`). -/
theorem ofStatus_stripEnd_printed {entries : List Printed} (h : ∀ entry ∈ entries, entry.IsProper) :
    ofStatus (Text.stripEnd (printed entries)) = entries.map Printed.change := by
  have hlines : Text.lines (Text.stripEnd (printed entries)).toList = entries.map Printed.line := by
    rw [Text.stripEnd, printed, listing, String.toList_ofList, String.toList_ofList]
    refine Text.lines_trimEnd_flatMap_lineFeed ?_ fun line hlast => ?_
    · exact List.forall_mem_map.2 fun entry hentry => (h entry hentry).line_unbroken
    · obtain ⟨entry, hentry, rfl⟩ := List.mem_map.1 (List.mem_of_getLast? hlast)
      exact ⟨List.cons_ne_nil _ _, (h entry hentry).line_ending⟩
  have hkept : ((entries.map Printed.line).filter fun line => !line.isEmpty) =
      entries.map Printed.line :=
    List.filter_eq_self.2 (List.forall_mem_map.2 fun _ _ => rfl)
  rw [ofStatus, hlines, hkept, List.map_map]
  exact List.map_congr_left fun entry _ => entry.ofLine_line

end WorkTree.Change
