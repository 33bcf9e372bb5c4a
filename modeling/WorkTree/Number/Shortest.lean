import WorkTree.Number.Binary64

set_option relaxedAutoImplicit false
set_option autoImplicit false

/-!
# The shortest decimal of a floating-point number

A number is written with the fewest digits that read back as it; among the decimals with that many
digits, the nearest one is taken. It is looked for on the decimal grids of one, two and up to
seventeen digits: on each of them only the two neighbours of the number can be the nearest.

## Main definitions

* `WorkTree.Binary64.Scaled` — a number and the bounds of what rounds to it, over one denominator.
* `WorkTree.Binary64.shortest` — the digits of the shortest decimal and its power of ten.
* `WorkTree.Binary64.text` — the number as a decimal text.
-/

namespace WorkTree.Binary64

/-- An absolute value, and the least and the largest quotient that round to it, over a common
denominator. The two bounds themselves round to the number when `closed` holds. -/
structure Scaled where
  value : Nat
  low : Nat
  high : Nat
  den : Nat
  closed : Bool

/-- The interval of quotients that round to `x`: half a step of the significand to either side, and
a quarter below a power of two, where the steps get smaller. -/
def scaled (x : Binary64) : Scaled :=
  let unit := Nat.pow 2 x.exponent.toNat
  let below := if x.significand = Nat.pow 2 52 ∧ minExponent < x.exponent then 1 else 2
  { value := 4 * x.significand * unit
    low := (4 * x.significand - below) * unit
    high := (4 * x.significand + 2) * unit
    den := 4 * Nat.pow 2 (-x.exponent).toNat
    closed := x.significand % 2 = 0 }

/-- Whether `n * 10 ^ k` lies in the interval. -/
def Scaled.contains (s : Scaled) (n : Nat) (k : Int) : Bool :=
  let point := n * Nat.pow 10 k.toNat * s.den
  let low := s.low * Nat.pow 10 (-k).toNat
  let high := s.high * Nat.pow 10 (-k).toNat
  (low < point && point < high) || (s.closed && (low == point || point == high))

/-- The exponent `e` with `10 ^ e ≤ value < 10 ^ (e + 1)`, for a positive value; no number of the
format is below `10 ^ (-400)`. -/
def Scaled.decade (s : Scaled) : Int :=
  ((Nat.toDigits 10 (s.value * Nat.pow 10 400 / s.den)).length : Int) - 401

/-- The nearest point of the grid of `count` digits, if one of the grid reads back. -/
def Scaled.onGrid? (s : Scaled) (count : Nat) : Option (Nat × Int) :=
  let k := s.decade - count + 1
  let num := s.value * Nat.pow 10 (-k).toNat
  let den := s.den * Nat.pow 10 k.toNat
  let near := divRound num den
  let below := num / den
  if s.contains near k then some (near, k)
  else if s.contains below k then some (below, k)
  else if s.contains (below + 1) k then some (below + 1, k)
  else none

/-- The digits of the shortest decimal that reads back as a positive number, and its power of
ten. -/
def shortest (x : Binary64) : Nat × Int :=
  ((List.range 18).drop 1).findSome? x.scaled.onGrid? |>.getD (0, 0)

/-! ## Text -/

/-- The digits without the zeros at their end. -/
def dropTrailingZeros (digits : List Char) : List Char :=
  (digits.reverse.dropWhile (· = '0')).reverse

/-- An exponent with its sign and at least two digits. -/
def exponentText (e : Int) : List Char :=
  let digits := Nat.toDigits 10 e.natAbs
  (if e < 0 then '-' else '+') :: (if digits.length < 2 then '0' :: digits else digits)

/-- Digits with the point after the first `point` of them. Positions from `10 ^ (-4)` up to below
`10 ^ 16` are written out, with at least one digit on either side of the point; other numbers have
one digit before the point and an exponent. -/
def layout (digits : List Char) (point : Int) : List Char :=
  if point ≤ -4 ∨ 16 < point then
    let rest := digits.drop 1
    digits.take 1 ++ (if rest.isEmpty then [] else '.' :: rest) ++ 'e' :: exponentText (point - 1)
  else if point ≤ 0 then
    '0' :: '.' :: List.replicate (-point).toNat '0' ++ digits
  else
    let places := point.toNat
    let whole := digits.take places ++ List.replicate (places - digits.length) '0'
    let fraction := digits.drop places
    whole ++ '.' :: (if fraction.isEmpty then ['0'] else fraction)

/-- The number as a decimal text, with the fewest digits that read back. -/
def text (x : Binary64) : String :=
  let magnitude :=
    if x.significand = 0 then ['0', '.', '0']
    else
      let (n, k) := x.shortest
      let digits := Nat.toDigits 10 n
      layout (dropTrailingZeros digits) (digits.length + k)
  String.ofList (if x.negative then '-' :: magnitude else magnitude)

end WorkTree.Binary64
