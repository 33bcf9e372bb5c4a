import WorkTree.Text.Blank
import WorkTree.Text.Line

set_option relaxedAutoImplicit false
set_option autoImplicit false

/-!
# Listings of remotes

Git lists remotes with their addresses, two lines for each. The first word of a line is the name.

## Main definitions

* `WorkTree.Remote.namesIn` — the distinct names in a listing, in the order of their first lines.
* `WorkTree.Remote.listing` — writing the listing.
-/

namespace WorkTree.Remote

/-- The first words of the lines of a listing. -/
def firstWords (listing : String) : List String :=
  (Text.lines listing.toList).filterMap fun line => (Text.firstWord? line).map String.ofList

/-- The distinct names in a listing, in the order of their first lines. -/
def namesIn (listing : String) : List String :=
  (firstWords listing).eraseDups

/-! ## Writing -/

/-- The two lines for a remote: one for fetching and one for pushing. -/
def linesFor (name address : String) : String :=
  name ++ "\t" ++ address ++ " (fetch)\n" ++ name ++ "\t" ++ address ++ " (push)\n"

/-- The listing of some remotes with their addresses. -/
def listing (remotes : List (String × String)) : String :=
  String.join (remotes.map fun remote => linesFor remote.1 remote.2)

end WorkTree.Remote
