import WorkTree.Host.Basic
import WorkTree.Settings.Problem
import WorkTree.Settings.Setting

set_option relaxedAutoImplicit false
set_option autoImplicit false

/-!
# The library behind settings

Settings leave two things to a library: to find their values, where a caller gives some of them and
variables may give others, and to read values as paths and as integers. Here it is only said what a
library does; `WorkTree.Settings.Library.standard` is the one that is used.

## Main definitions

* `WorkTree.Settings.Found` — the values of settings that a library finds.
* `WorkTree.Settings.Library` — what settings leave to a library.
-/

namespace WorkTree.Settings

/-- The values of settings that are found, and the names that are given and stand for nothing. -/
structure Found where
  value? : Setting → Option Value
  unknownNames : List String

/-- What settings leave to a library. It keeps some names for itself, under which a caller tells it
where to look and how. Otherwise it finds values on a host, unless a fault ends that, and reads a
value as a path or as an integer. -/
structure Library where
  reserved : List String
  find : Host → Given → Except Fault Found
  pathOf : Value → Except Reason Path
  integerOf : Value → Except Reason Int

end WorkTree.Settings
