import LogQuery.Number.Binary64

/-!
# Shortest Decimal Digits

The decimal text of a binary64 number has the fewest digits that identify it.
A decimal identifies a number if it lies in the interval of reals that round
to the number. The interval ends halfway to the neighbours, and its ends
belong to it exactly when the mantissa is even, because a tie goes to the even
mantissa.

A grid of decimals with `n` significant digits meets the interval if and only
if one of the number's two neighbours on the grid lies in it. So the search
takes the grids of 1, 2, … 17 digits in turn, tests two candidates on each,
and stops at the first grid with a hit; seventeen digits always suffice. Of
two hits the nearer wins, and the one with the even last digit if both are
equally near.

## Main definitions

* `Decimal`: Significant digits with the power of ten of the first.
* `Decimal.shortest`: The fewest digits that identify a positive number.
-/

namespace LogQuery

/-- The decimal digits of a natural number, most significant first. -/
def decimalDigits (n : Nat) : List Char := Nat.toDigits 10 n

/-- A positive decimal in scientific form: `d.ddd · 10 ^ exponent`. -/
structure Decimal where
  /-- The significant digits, the first of them not zero. -/
  digits : List Char
  /-- The power of ten that the first digit counts. -/
  exponent : Int
deriving DecidableEq, Repr

namespace Decimal

/-- Removes the zeros at the end of a list of digits. -/
def trimZeros (digits : List Char) : List Char :=
  (digits.reverse.dropWhile (· == '0')).reverse

/-- The integer part of `log₁₀ (num / den)`, for a positive quotient. -/
def leadingExponent (num den : Nat) : Int :=
  if den ≤ num then
    Int.ofNat ((decimalDigits (num / den)).length - 1)
  else
    -- One place after the point for each factor of ten that is missing.
    let places := (decimalDigits (den / num)).length - 1
    if den ≤ num * Nat.pow 10 places then -Int.ofNat places else -Int.ofNat (places + 1)

/-- An interval of positive rationals around the value `value / unit`. -/
structure Rounding where
  lower : Nat
  value : Nat
  upper : Nat
  unit : Nat
  /-- Whether the ends belong to the interval. -/
  closed : Bool

/-- Whether `num / den` lies in the interval. -/
def Rounding.admits (r : Rounding) (num den : Nat) : Bool :=
  if r.closed then decide (r.lower * den ≤ num * r.unit) && decide (num * r.unit ≤ r.upper * den)
  else decide (r.lower * den < num * r.unit) && decide (num * r.unit < r.upper * den)

/-- The reals that round to a positive number. Below a power of two the
    neighbours are half as far apart as above it. -/
def Rounding.of (x : Binary64) : Rounding :=
  let step := 1 <<< x.scale
  let below := if x.mantissa = 0x10000000000000 ∧ x.scale ≠ 0 then 1 else 2
  { lower := (4 * x.mantissa - below) * step
    value := 4 * x.mantissa * step
    upper := (4 * x.mantissa + 2) * step
    unit := 4 * Binary64.unitsPerOne
    closed := x.mantissa % 2 == 0 }

/-- The point of the grid of multiples of `10 ^ place` that identifies the
    value, if there is one, as a number of steps. -/
def gridPoint? (r : Rounding) (place : Int) : Option Nat :=
  -- A step is `10 ^ place = up / down`.
  let up := Nat.pow 10 place.toNat
  let down := Nat.pow 10 (-place).toNat
  let lesser := r.value * down / (r.unit * up)
  let greater := lesser + 1
  match r.admits (lesser * up) down, r.admits (greater * up) down with
  | true, false => some lesser
  | false, true => some greater
  | false, false => none
  | true, true =>
    -- Twice the value against the sum of the two neighbours.
    let twice := 2 * r.value * down
    let middle := (lesser + greater) * up * r.unit
    if twice < middle then some lesser
    else if middle < twice then some greater
    else if lesser % 2 = 0 then some lesser else some greater

/-- Takes the grids from the one whose steps are `10 ^ place` downwards. -/
def firstGridPoint (r : Rounding) : Nat → Int → Nat × Int
  | 0, place =>
    (r.value * Nat.pow 10 (-place).toNat / (r.unit * Nat.pow 10 place.toNat), place)
  | tries + 1, place =>
    match gridPoint? r place with
    | some steps => (steps, place)
    | none => firstGridPoint r tries (place - 1)

/-- The fewest digits that identify a positive number. -/
def shortest (x : Binary64) : Decimal :=
  let r := Rounding.of x
  let leading := leadingExponent r.value r.unit
  let (steps, place) := firstGridPoint r 17 leading
  let digits := decimalDigits steps
  ⟨trimZeros digits, place + Int.ofNat (digits.length - 1)⟩

end Decimal

end LogQuery
