import WorkTree.Number.Shortest

set_option relaxedAutoImplicit false
set_option autoImplicit false

/-!
# Numbers of the 64-bit binary format

A datum of the format is a finite number, an infinity with a sign, or the mark of what is no number.
Arithmetic rounds exact results to the nearest finite number; what rounds past the largest of them
is an infinity.

## Main definitions

* `WorkTree.Double` — the data of the format.
* `WorkTree.Double.ofRatio`, `WorkTree.Double.ofDecimal` — the datum nearest to a quotient, and to
  a decimal.
* `WorkTree.Double.text`, `WorkTree.Double.toBits` — how a datum is written, and its 64 bits.
* `WorkTree.Double.isZero`, `WorkTree.Double.isAtMostZero` — tests.
* `WorkTree.Double.thousandth` — the thousandth of a number.
* `WorkTree.Double.agrees` — whether two data stand for the same number.
-/

namespace WorkTree

/-- A datum of the 64-bit binary format. -/
inductive Double where
  | finite (x : Binary64)
  | infinite (negative : Bool)
  | notANumber
  deriving DecidableEq, Repr

namespace Double

/-! ## Rounding -/

/-- The datum nearest to `± num / den`. -/
def ofRatio (negative : Bool) (num den : Nat) : Double :=
  match Binary64.ofRatio? num den with
  | some x => .finite { x with negative }
  | none => .infinite negative

/-- The datum nearest to `± mantissa * 10 ^ exponent`. -/
def ofDecimal (negative : Bool) (mantissa : Nat) (exponent : Int) : Double :=
  match Binary64.ofDecimal? negative mantissa exponent with
  | some x => .finite x
  | none => .infinite negative

/-! ## Views -/

/-- How an infinity is written. -/
def infiniteText (negative : Bool) : String :=
  if negative then "-inf" else "inf"

/-- How a datum is written: a finite number with the fewest digits that read back. -/
def text : Double → String
  | .finite x => x.text
  | .infinite negative => infiniteText negative
  | .notANumber => "nan"

/-- The exponent field of data that are not finite, in its place among the bits. -/
def infiniteBits : Nat :=
  2047 * Nat.pow 2 52

/-- The 64 bits of the interchange format, as a natural number. -/
def toBits : Double → Nat
  | .finite x => x.toBits
  | .infinite negative => if negative then Nat.pow 2 63 + infiniteBits else infiniteBits
  | .notANumber => infiniteBits + Nat.pow 2 51

/-! ## Tests -/

/-- Whether the datum is a zero of either sign. -/
def isZero : Double → Bool
  | .finite x => x.significand = 0
  | .infinite _ | .notANumber => false

/-- Whether the datum is a number that is negative or zero. -/
def isAtMostZero : Double → Bool
  | .finite x => x.quotient.1 ≤ 0
  | .infinite negative => negative
  | .notANumber => false

/-! ## Arithmetic -/

/-- The datum nearest to a thousandth. -/
def thousandth : Double → Double
  | .finite x =>
    let (num, den) := x.quotient
    ofRatio x.negative num.natAbs (den * 1000)
  | x => x

/-! ## Comparison -/

/-- Whether two data stand for the same number. The two zeros do, and what is no number stands for
none. -/
def agrees : Double → Double → Bool
  | .finite x, .finite y =>
    let (num, den) := x.quotient
    let (num', den') := y.quotient
    num * den' == num' * den
  | .infinite a, .infinite b => a == b
  | _, _ => false

end Double

end WorkTree
