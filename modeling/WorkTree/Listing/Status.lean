import WorkTree.Text.Blank
import WorkTree.Text.Line

set_option relaxedAutoImplicit false
set_option autoImplicit false

/-!
# Listings of changes

Git lists changed files one per line: a code of two columns, a blank, and the path.

## Main definitions

* `WorkTree.Change` — a line of the listing, as code and path.
* `WorkTree.Change.ofStatus` — the changes that a listing holds.
* `WorkTree.Change.line`, `WorkTree.Change.listing` — writing the lines and the listing.
-/

namespace WorkTree

/-- A changed file: what happened to it, and its path. -/
structure Change where
  code : String
  path : String
  deriving DecidableEq, Repr

namespace Change

/-- The change on a line: the code stands in the first two columns, possibly with blanks, and the
path begins in the fourth. -/
def ofLine (line : List Char) : Change :=
  ⟨String.ofList (Text.trim (line.take 2)), String.ofList (line.drop 3)⟩

/-- The changes that a listing holds; empty lines are passed over. -/
def ofStatus (status : String) : List Change :=
  ((Text.lines status.toList).filter fun line => !line.isEmpty).map ofLine

/-! ## Writing -/

/-- The line of two columns and a path. -/
def line (first second : Char) (path : List Char) : List Char :=
  first :: second :: ' ' :: path

/-- The listing of some lines, each with a line feed. -/
def listing (lines : List (List Char)) : String :=
  String.ofList (lines.flatMap fun line => line ++ ['\n'])

end Change

end WorkTree
