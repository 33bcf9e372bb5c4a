set_option relaxedAutoImplicit false
set_option autoImplicit false

/-!
# Binary floating-point numbers

The finite numbers of the 64-bit binary format, as sign, significand and exponent. A quotient of
natural numbers is rounded to the nearest of them, a tie to the even significand, in exact integer
arithmetic; a quotient that rounds past the largest of them has no value here, and an infinite one
in `WorkTree.Double`.

## Main definitions

* `WorkTree.Binary64` — a finite number `± significand * 2 ^ exponent`.
* `WorkTree.Binary64.divRound` — the integer nearest to a quotient, a tie to the even one.
* `WorkTree.Binary64.ofRatio?` — the number nearest to a quotient.
* `WorkTree.Binary64.ofDecimal?` — the number nearest to a decimal.
* `WorkTree.Binary64.toBits` — the 64 bits of the interchange format, as a natural number.
* `WorkTree.Binary64.quotient` — the number as a quotient of integers.
* `WorkTree.Binary64.isIntegral`, `WorkTree.Binary64.truncate` — whether there is no fraction, and
  the integer that is left when the fraction is dropped.
-/

namespace WorkTree

/-- A finite number of the 64-bit binary format. Its value is `significand * 2 ^ exponent` with the
sign; the significand is below `2 ^ 53`, and from `2 ^ 52` on unless the exponent is the least. -/
structure Binary64 where
  negative : Bool
  significand : Nat
  exponent : Int
  deriving DecidableEq, Repr

namespace Binary64

/-- The least exponent. -/
def minExponent : Int :=
  -1074

/-- The largest exponent. -/
def maxExponent : Int :=
  971

/-- The significands lie below this number. -/
def significandBound : Nat :=
  Nat.pow 2 53

/-! ## Rounding -/

/-- The integer nearest to `num / den`; of two that are equally near, the even one. -/
def divRound (num den : Nat) : Nat :=
  let quotient := num / den
  let rest := num % den
  if den < 2 * rest ∨ (2 * rest = den ∧ quotient % 2 = 1) then quotient + 1 else quotient

/-- Whether `2 ^ e` is at most `num / den`. -/
def powLeRatio (e : Int) (num den : Nat) : Bool :=
  den * Nat.pow 2 e.toNat ≤ num * Nat.pow 2 (-e).toNat

/-- The exponent `e` with `2 ^ e ≤ num / den < 2 ^ (e + 1)`, for positive `num` and `den`. -/
def binade (num den : Nat) : Int :=
  let e : Int := (Nat.log2 num : Int) - (Nat.log2 den : Int)
  if powLeRatio e num den then e else e - 1

/-- The number nearest to `num / den`, a tie to the even significand; none when that lies beyond
the largest number. -/
def ofRatio? (num den : Nat) : Option Binary64 :=
  if num = 0 then some ⟨false, 0, minExponent⟩
  else
    let e := max (binade num den - 52) minExponent
    let m := divRound (num * Nat.pow 2 (-e).toNat) (den * Nat.pow 2 e.toNat)
    let carried := m = significandBound
    let exponent := if carried then e + 1 else e
    if maxExponent < exponent then none
    else some ⟨false, if carried then m / 2 else m, exponent⟩

/-- The number nearest to `± mantissa * 10 ^ exponent`. -/
def ofDecimal? (negative : Bool) (mantissa : Nat) (exponent : Int) : Option Binary64 :=
  (ofRatio? (mantissa * Nat.pow 10 exponent.toNat) (Nat.pow 10 (-exponent).toNat)).map
    fun x => { x with negative }

/-! ## Views -/

/-- The number as a quotient of integers. -/
def quotient (x : Binary64) : Int × Nat :=
  let num : Int := x.significand * Int.pow 2 x.exponent.toNat
  (if x.negative then -num else num, Nat.pow 2 (-x.exponent).toNat)

/-- The sign, the biased exponent and the significand without its leading bit, side by side. -/
def toBits (x : Binary64) : Nat :=
  let magnitude :=
    if x.significand < Nat.pow 2 52 then x.significand
    else (x.exponent - minExponent + 1).toNat * Nat.pow 2 52 + (x.significand - Nat.pow 2 52)
  if x.negative then Nat.pow 2 63 + magnitude else magnitude

/-- The absolute value without its fraction. -/
def truncateAbs (x : Binary64) : Nat :=
  x.significand * Nat.pow 2 x.exponent.toNat / Nat.pow 2 (-x.exponent).toNat

/-- Whether the number is an integer. -/
def isIntegral (x : Binary64) : Bool :=
  x.significand * Nat.pow 2 x.exponent.toNat % Nat.pow 2 (-x.exponent).toNat = 0

/-- The number without its fraction. -/
def truncate (x : Binary64) : Int :=
  if x.negative then -(x.truncateAbs : Int) else x.truncateAbs

end Binary64

end WorkTree
