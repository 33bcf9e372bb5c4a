import WorkTree.Fault
import WorkTree.Value

set_option relaxedAutoImplicit false
set_option autoImplicit false

/-!
# Time limits

How long a command may run, in milliseconds: a positive number, which callers mostly give as an
integer. What is no number passes for a limit as well, since it is not at most zero.

## Main definitions

* `WorkTree.TimeLimit` — the limits.
* `WorkTree.TimeLimit.ofValue` — the limit that a value stands for.
* `WorkTree.TimeLimit.seconds?` — the limit in seconds.

## Main results

* `WorkTree.TimeLimit.ofValue_value` — the value of a limit stands for it.
-/

namespace WorkTree

/-- How long a command may run, in milliseconds: a positive integer, a floating-point datum that is
not at most zero, or the truth value that is one. -/
inductive TimeLimit where
  | whole (milliseconds : Nat) (pos : 0 < milliseconds)
  | real (milliseconds : Double) (pos : milliseconds.isAtMostZero = false)
  | yes
  deriving DecidableEq, Repr

namespace TimeLimit

/-- The limit that a value stands for. -/
def ofValue : Value → Except Fault TimeLimit
  | .int n =>
    if h : 0 < n then .ok (.whole n.toNat (by omega)) else .error (.timeLimitNotPositive (.int n))
  | .real x =>
    if h : x.isAtMostZero = false then .ok (.real x h)
    else .error (.timeLimitNotPositive (.real x))
  | .bool true => .ok .yes
  | .bool false => .error (.timeLimitNotPositive (.bool false))
  | v => .error (.notComparable v.kind)

/-- The limit as the value that stands for it. -/
def value : TimeLimit → Value
  | .whole milliseconds _ => .int milliseconds
  | .real milliseconds _ => .real milliseconds
  | .yes => .bool true

/-- The limit in seconds; an integer is too large when that is no finite number. -/
def seconds? : TimeLimit → Option Double
  | .whole milliseconds _ => (Binary64.ofRatio? milliseconds 1000).map .finite
  | .real milliseconds _ => some milliseconds.thousandth
  | .yes => (Binary64.ofRatio? 1 1000).map .finite

/-- A positive integer is a limit. -/
theorem ofValue_int {n : Nat} (h : 0 < n) : ofValue (.int n) = .ok (.whole n h) := by
  simp [ofValue, h]

/-- What a limit is written as stands for it. -/
theorem ofValue_value (limit : TimeLimit) : ofValue limit.value = .ok limit := by
  cases limit with
  | whole milliseconds pos => exact ofValue_int pos
  | real milliseconds pos => simp [value, ofValue, pos]
  | yes => rfl

end TimeLimit

end WorkTree
