import WorkTree.Fault
import WorkTree.Value

set_option relaxedAutoImplicit false
set_option autoImplicit false

/-!
# Whole numbers

Where a number is written without a fraction, numbers of every type will do, truth values among
them. Infinities and what is no number have no whole part.

## Main definitions

* `WorkTree.Double.whole` — a floating-point number without its fraction.
* `WorkTree.Value.whole` — the number that a value is, without its fraction.
-/

namespace WorkTree

/-- A floating-point number without its fraction. -/
def Double.whole : Double → Except Fault Int
  | .finite x => .ok x.truncate
  | .infinite _ => .error .infinityNotWhole
  | .notANumber => .error .notANumberNotWhole

/-- The number that a value is, without its fraction. -/
def Value.whole : Value → Except Fault Int
  | .int n => .ok n
  | .bool b => .ok b.toNat
  | .real x => x.whole
  | v => .error (.notReal v.kind)

end WorkTree
