import WorkTree.Fault
import WorkTree.Text.Downcase

set_option relaxedAutoImplicit false
set_option autoImplicit false

/-!
# The settings and what a caller gives

A session has two settings. A caller gives values by names; what a caller does not give may be found
in variables, which have the name of the setting behind a lead.

## Main definitions

* `WorkTree.Setting` — the settings, with their names.
* `WorkTree.Setting.isVariable` — the variables of a setting.
* `WorkTree.Given`, `WorkTree.Given.present` — what a caller gives, and what of it is not absent.
* `WorkTree.Given.requireFree` — refuses a name that is taken.
-/

namespace WorkTree

/-! ## Settings -/

/-- The settings. -/
inductive Setting where
  | projectPath
  | timeout
  deriving DecidableEq, Repr

namespace Setting

/-- All settings, in the order in which they are checked. -/
def all : List Setting :=
  [.projectPath, .timeout]

/-- The name of a setting. -/
def name : Setting → String
  | .projectPath => "project_path"
  | .timeout => "timeout"

/-- Whether a name is that of a setting, in letters of either case. -/
def isCalled (setting : Setting) (name : String) : Bool :=
  Text.downcase name = Text.downcase setting.name

/-- What the names of the variables of settings begin with. -/
def lead : String :=
  "GITCACHE_"

/-- Whether a variable is one of a setting: its name is that of the setting behind the lead, in
letters of either case. -/
def isVariable (setting : Setting) (name : String) : Bool :=
  Text.downcase name = Text.downcase (lead ++ setting.name)

end Setting

/-! ## What a caller gives -/

/-- What a caller gives: values under names, in order. -/
abbrev Given : Type :=
  List (String × Value)

namespace Given

/-- The names under which something is given. -/
def names (given : Given) : List String :=
  given.map Prod.fst

/-- What a caller gives, without what is given as absent. -/
def present (given : Given) : Given :=
  given.filter fun entry => !entry.2.isNull

/-- Refuses a name that an operation takes for itself, so that nothing can be given under it. -/
def requireFree (given : Given) (name operation : String) : Except Fault Unit :=
  if name ∈ given.names then .error (.argumentTwice operation name) else .ok ()

/-- A name that settings use for a purpose of their own, beside their attributes. -/
def internalName (purpose : String) : String :=
  "__pydantic_" ++ purpose ++ "__"

end Given

end WorkTree
