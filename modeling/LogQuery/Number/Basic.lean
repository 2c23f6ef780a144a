import LogQuery.Number.Shortest

/-!
# Numbers

A number of a log record is either an exact integer of 64 bits or a finite
binary64 number. The two are kept apart: `1` and `1.0` are written
differently, so they are different numbers here, and no operation turns one
into the other.

The text of a number is canonical. An integer has its plain digits. A real has
its shortest digits, written positionally near the point and in scientific
form further away; `Number.layout` holds the decisions.

## Main definitions

* `Number`: A 64-bit integer or a finite real.
* `Number.text`: The canonical text of a number.
* `Number.same`: Equality of numbers, under which the two real zeros agree.
-/

namespace LogQuery

/-- Where positional notation ends and how the rest is written. -/
structure RealLayout where
  /-- The least exponent of the first digit that is written positionally. -/
  leastPlain : Int
  /-- The greatest exponent of the first digit that is written positionally. -/
  greatestPlain : Int
  /-- What follows a whole number in positional notation. -/
  wholeSuffix : String
  /-- What separates the digits from the exponent. -/
  exponentMark : String
  /-- The sign of an exponent that is not negative. -/
  exponentPlus : String

namespace RealLayout

/-- Positional notation: the point goes after the digit that counts ones. -/
def plain (layout : RealLayout) (d : Decimal) : String :=
  if d.exponent < 0 then
    "0." ++ String.ofList (List.replicate ((-d.exponent).toNat - 1) '0' ++ d.digits)
  else
    let whole := d.exponent.toNat + 1
    if d.digits.length ≤ whole then
      String.ofList (d.digits ++ List.replicate (whole - d.digits.length) '0') ++
        layout.wholeSuffix
    else
      String.ofList (d.digits.take whole) ++ "." ++ String.ofList (d.digits.drop whole)

/-- Scientific notation: one digit, the other digits after a point, and the
    exponent. -/
def scientific (layout : RealLayout) (d : Decimal) : String :=
  let sign := if d.exponent < 0 then "-" else layout.exponentPlus
  let rest := d.digits.drop 1
  String.ofList (d.digits.take 1) ++ (if rest.isEmpty then "" else "." ++ String.ofList rest) ++
    layout.exponentMark ++ sign ++ String.ofList (decimalDigits d.exponent.natAbs)

/-- The text of a finite real. -/
def text (layout : RealLayout) (x : Binary64) : String :=
  let sign := if x.negative then "-" else ""
  if x.isZero then sign ++ "0" ++ layout.wholeSuffix
  else
    let d := Decimal.shortest x
    if layout.leastPlain ≤ d.exponent ∧ d.exponent ≤ layout.greatestPlain then
      sign ++ layout.plain d
    else sign ++ layout.scientific d

end RealLayout

/-- A 64-bit integer, signed or unsigned, or a finite real. -/
inductive Number where
  | integer (value : Int) (inRange : -0x8000000000000000 ≤ value ∧ value < 0x10000000000000000)
  | real (value : Binary64)
deriving DecidableEq

namespace Number

/-- Reals are written positionally while their first digit stands at most five
    places after the point or fifteen before it, and a whole real keeps `.0`. -/
def layout : RealLayout := ⟨-5, 15, ".0", "e", "+"⟩

/-- The integer, if it has 64 bits. -/
def ofInt? (value : Int) : Option Number :=
  if h : -0x8000000000000000 ≤ value ∧ value < 0x10000000000000000 then
    some (.integer value h)
  else none

/-- A natural number small enough to be one of 64 bits. -/
def ofNat (n : Nat) (h : n < 0x10000000000000000) : Number :=
  .integer n ⟨by omega, by omega⟩

instance : Inhabited Number := ⟨ofNat 0 (by decide)⟩

/-- The decimal text of an integer. -/
def integerText (value : Int) : String :=
  if value < 0 then "-" ++ String.ofList (decimalDigits value.natAbs)
  else String.ofList (decimalDigits value.natAbs)

/-- The canonical text of a number. -/
def text : Number → String
  | integer value _ => integerText value
  | real value => layout.text value

/-- Equality of numbers. An integer never equals a real. -/
def same : Number → Number → Bool
  | integer a _, integer b _ => a == b
  | real a, real b => a.same b
  | _, _ => false

end Number

end LogQuery
