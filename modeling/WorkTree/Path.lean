set_option relaxedAutoImplicit false
set_option autoImplicit false

/-!
# Lexical paths

A path is a root and a list of parts. Reading a text drops empty parts and parts `.`, and keeps
`..`; exactly two slashes at the beginning are a root of their own. Writing the path gives the
normal form of the text.

## Main definitions

* `WorkTree.Path` — a root with parts.
* `WorkTree.Path.ofString`, `WorkTree.Path.text` — reading and writing.
* `WorkTree.Path.resolveFrom` — the absolute path without `..` that a path means in a directory.
-/

namespace WorkTree

/-- What a path begins at: the current directory, the root directory, or the root directory written
with two slashes. -/
inductive Path.Root where
  | relative
  | absolute
  | doubled
  deriving DecidableEq, Repr

/-- A path as a root and the names to follow from there. -/
structure Path where
  root : Path.Root
  parts : List String
  deriving DecidableEq, Repr

namespace Path

/-- The slashes that a root is written with. -/
def Root.text : Root → String
  | .relative => ""
  | .absolute => "/"
  | .doubled => "//"

/-- The root that a text begins with: three slashes or more are one. -/
def rootOf : List Char → Root
  | '/' :: '/' :: '/' :: _ => .absolute
  | '/' :: '/' :: _ => .doubled
  | '/' :: _ => .absolute
  | _ => .relative

/-- The names in a text: its nonempty parts other than `.`. -/
def partsOf (s : List Char) : List String :=
  ((s.splitOn '/').filter fun part => !part.isEmpty && part != ['.']).map String.ofList

/-- The path that a text writes. -/
def ofString (s : String) : Path :=
  ⟨rootOf s.toList, partsOf s.toList⟩

/-- The normal form of a path; the current directory is written `.`. -/
def text (p : Path) : String :=
  if p.root = .relative ∧ p.parts = [] then "."
  else p.root.text ++ String.intercalate "/" p.parts

/-- Whether some name in the path holds the character U+0000, which no file system accepts. -/
def hasNul (p : Path) : Bool :=
  p.parts.any fun part => part.toList.any (·.toNat == 0)

/-! ## Resolution -/

/-- Follows a name from a directory; `..` leads to the directory above, and from the root directory
to itself. -/
def follow (directory : List String) (name : String) : List String :=
  if name = ".." then directory.dropLast else directory ++ [name]

/-- The absolute path, free of `..`, that `p` means in the directory with the given names. -/
def resolveFrom (directory : List String) (p : Path) : Path :=
  let start := if p.root = .relative then directory else []
  ⟨.absolute, p.parts.foldl follow start⟩

/-- Whether a path is absolute, written with one slash, and goes down from the root directory
only. -/
def IsResolved (p : Path) : Prop :=
  p.root = .absolute ∧ ∀ part ∈ p.parts, part ≠ "." ∧ part ≠ ".."

end Path

end WorkTree
