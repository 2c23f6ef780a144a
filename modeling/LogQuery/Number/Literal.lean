import LogQuery.Number.Basic

/-!
# Decimal Literals

Two ways of giving a decimal literal its binary64 value.

`Binary64.scaled?` is the rule of JSON texts. The digits make one integer of
at most 64 bits, which is rounded; the result is then multiplied or divided by
the rounded power of ten, which rounds again. The two roundings can leave the
value one step away from the nearest, so the rule is part of what a JSON
number means here and not only a way to compute it. An exponent beyond the
range of powers of ten is taken off in steps of 308.

`nearest` is the rule of free-standing number texts: one rounding, of the
exact value of the literal.

## Main definitions

* `Binary64.scaled?`: The value of a JSON number with a fraction or exponent.
* `RealText`: What a free-standing number text denotes.
* `RealText.read?`: Reads such a text.
* `readInteger?`: Reads a text as a signed integer.
-/

namespace LogQuery

namespace Binary64

/-- The representable number nearest to `10 ^ exponent`, for an exponent of at
    most 308. -/
def powerOfTen? (exponent : Nat) : Option Binary64 :=
  ofNat? false (Nat.pow 10 exponent)

/-- Scales `x` by a power of ten. `rounds` bounds the divisions by `10 ^ 308`;
    three of them take every 64-bit integer to zero. -/
def scaleBy? : Nat → Binary64 → Int → Option Binary64
  | rounds, x, exponent =>
    if exponent.natAbs ≤ 308 then
      (powerOfTen? exponent.natAbs).bind fun power =>
        if 0 ≤ exponent then x.mul? power else x.div? power
    else if x.isZero then some x
    else if 0 ≤ exponent then none
    else
      match rounds with
      | 0 => some (zero x.negative)
      | rounds + 1 =>
        (powerOfTen? 308).bind fun power =>
          (x.div? power).bind fun y => scaleBy? rounds y (exponent + 308)

/-- The value of `± significand · 10 ^ exponent` by the rule of JSON texts, or
    `none` when it is too large. -/
def scaled? (negative : Bool) (significand : Nat) (exponent : Int) : Option Binary64 :=
  (ofNat? false significand).bind fun x =>
    (scaleBy? 3 x exponent).map fun y => y.withSign negative

end Binary64

/-- What a number text denotes. -/
inductive RealText where
  | finite (value : Binary64)
  /-- An infinity, written out or reached by overflow. -/
  | infinite (negative : Bool)
  | notANumber
deriving DecidableEq

namespace RealText

/-- The finite value, if there is one. -/
def finite? : RealText → Option Binary64
  | finite value => some value
  | _ => none

/-- The value of `± significand · 10 ^ exponent`, rounded once. Exponents far
    outside the range of the format are decided without forming the power. -/
def nearest (negative : Bool) (significand : Nat) (exponent : Int) : RealText :=
  let size := Int.ofNat (decimalDigits significand).length
  if significand = 0 then .finite (Binary64.zero negative)
  else if 400 < exponent + size then .infinite negative
  else if exponent + size < -400 then .finite (Binary64.zero negative)
  else
    match Binary64.ofRatio? negative (significand * Nat.pow 10 exponent.toNat)
        (Nat.pow 10 (-exponent).toNat) with
    | some value => .finite value
    | none => .infinite negative

/-- The value of a list of decimal digits. -/
def digitsValue (digits : List Char) : Nat :=
  digits.foldl (fun acc c => acc * 10 + (c.toNat - '0'.toNat)) 0

/-- Splits off a leading sign; the flag tells whether it was a minus. -/
def splitSign : List Char → Bool × List Char
  | '-' :: rest => (true, rest)
  | '+' :: rest => (false, rest)
  | rest => (false, rest)

/-- Reads an exponent, or nothing, up to the end of the text. -/
def readExponent? : List Char → Option Int
  | [] => some 0
  | mark :: rest =>
    if mark = 'e' ∨ mark = 'E' then
      let (negative, digits) := splitSign rest
      if digits.isEmpty || !digits.all Char.isDigit then none
      else if negative then some (-Int.ofNat (digitsValue digits))
      else some (Int.ofNat (digitsValue digits))
    else none

/-- Reads the unsigned part of a number text: digits with at most one point
    among or beside them, and an optional exponent. -/
def readUnsigned? (negative : Bool) (cs : List Char) : Option RealText :=
  let whole := cs.takeWhile Char.isDigit
  let afterWhole := cs.dropWhile Char.isDigit
  let (fraction, afterFraction) :=
    match afterWhole with
    | '.' :: rest => (rest.takeWhile Char.isDigit, rest.dropWhile Char.isDigit)
    | rest => ([], rest)
  if whole.isEmpty && fraction.isEmpty then none
  else
    (readExponent? afterFraction).map fun exponent =>
      nearest negative (digitsValue (whole ++ fraction)) (exponent - Int.ofNat fraction.length)

/-- Reads a number text: a decimal literal, or the name of an infinity or of
    the value that is not a number, in any case and with an optional sign. -/
def read? (text : String) : Option RealText :=
  let (negative, cs) := splitSign text.toList
  let name := String.ofList (cs.map Char.toLower)
  if name = "inf" ∨ name = "infinity" then some (.infinite negative)
  else if name = "nan" then some .notANumber
  else readUnsigned? negative cs

end RealText

/-- Reads a text of digits with an optional sign as an integer. -/
def readInteger? (text : String) : Option Int :=
  let (negative, digits) := RealText.splitSign text.toList
  if digits.isEmpty || !digits.all Char.isDigit then none
  else if negative then some (-Int.ofNat (RealText.digitsValue digits))
  else some (Int.ofNat (RealText.digitsValue digits))

end LogQuery
