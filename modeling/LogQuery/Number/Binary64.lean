/-!
# Finite Binary64 Numbers

A finite double-precision number is a sign, a mantissa of at most 53 bits and
a power of two. Keeping it in that form, and not as a machine float, makes
every operation below a computation on naturals: the quotient that an
operation means is formed exactly and rounded once, to the nearest
representable number and to the even mantissa on a tie.

A magnitude is `mantissa · 2 ^ scale / 2 ^ 1074`, so the scale is a natural
number and zero is the scale of the subnormal numbers. The proof fields make
the representation of a magnitude unique. Zero has two signs.

## Main definitions

* `Binary64`: A finite double-precision number.
* `Binary64.unitsPerOne`: What magnitudes are counted in.
* `Binary64.ofRatio?`: The representable number nearest to a quotient.
* `Binary64.ofNat?`: The representable number nearest to a natural number.
* `Binary64.mul?`, `Binary64.div?`, `Binary64.addMagnitude?`: The nearest
  product, quotient and sum.
* `Binary64.same`: Numerical equality, under which the two zeros agree.
-/

namespace LogQuery

/-- The number `± mantissa · 2 ^ scale / 2 ^ 1074`. -/
structure Binary64 where
  negative : Bool
  mantissa : Nat
  scale : Nat
  /-- The mantissa has at most 53 bits. -/
  mantissa_lt : mantissa < 0x20000000000000
  /-- The largest finite magnitude lies below `2 ^ 1024`. -/
  scale_le : scale ≤ 2045
  /-- Above the subnormal range the mantissa has its full 53 bits. -/
  normal : scale = 0 ∨ 0x10000000000000 ≤ mantissa
deriving DecidableEq

namespace Binary64

/-- Zero with a sign. -/
def zero (negative : Bool) : Binary64 :=
  ⟨negative, 0, 0, by decide, by decide, Or.inl rfl⟩

instance : Inhabited Binary64 := ⟨zero false⟩

/-- The number with these parts, if they are those of a finite number. -/
def mk? (negative : Bool) (mantissa scale : Nat) : Option Binary64 :=
  if h : mantissa < 0x20000000000000 ∧ scale ≤ 2045 ∧
      (scale = 0 ∨ 0x10000000000000 ≤ mantissa) then
    some ⟨negative, mantissa, scale, h.1, h.2.1, h.2.2⟩
  else none

/-- How often the smallest positive magnitude goes into one: `2 ^ 1074` times.
    Every magnitude is a whole number of these units. -/
def unitsPerOne : Nat := 1 <<< 1074

/-- The quotient `num / den` rounded to the nearest natural number, a half to
    the even neighbour. -/
def roundedQuotient (num den : Nat) : Nat :=
  let quotient := num / den
  let rest := num % den
  if den < 2 * rest ∨ (2 * rest = den ∧ quotient % 2 = 1) then quotient + 1 else quotient

/-- The representable number nearest to `± num / den`, or `none` when that
    magnitude rounds to `2 ^ 1024` or more.

    The scale is chosen so that the quotient has 53 bits, or is zero if it
    would take a negative one. Rounding up can carry into a 54th bit, and then
    the mantissa is the power of two one scale further up. -/
def ofRatio? (negative : Bool) (num den : Nat) : Option Binary64 :=
  let shifted := num * unitsPerOne
  let scale := (shifted / den).log2 - 52
  let mantissa := roundedQuotient shifted (den <<< scale)
  if mantissa = 0x20000000000000 then mk? negative 0x10000000000000 (scale + 1)
  else mk? negative mantissa scale

/-- The representable number nearest to `± n`. -/
def ofNat? (negative : Bool) (n : Nat) : Option Binary64 :=
  ofRatio? negative n 1

/-- The magnitude in units. -/
def magnitude (x : Binary64) : Nat := x.mantissa <<< x.scale

def isZero (x : Binary64) : Bool := x.mantissa == 0

/-- The representable number nearest to the product. -/
def mul? (x y : Binary64) : Option Binary64 :=
  ofRatio? (x.negative != y.negative) (x.magnitude * y.magnitude) (unitsPerOne * unitsPerOne)

/-- The representable number nearest to the quotient, for a divisor that is
    not zero. -/
def div? (x y : Binary64) : Option Binary64 :=
  ofRatio? (x.negative != y.negative) x.magnitude y.magnitude

/-- The representable number nearest to the sum of the magnitudes. -/
def addMagnitude? (x y : Binary64) : Option Binary64 :=
  ofRatio? x.negative (x.magnitude + y.magnitude) unitsPerOne

/-- The same magnitude with the given sign. -/
def withSign (x : Binary64) (negative : Bool) : Binary64 :=
  { x with negative }

/-- Numerical equality: the two zeros are the same number. -/
def same (x y : Binary64) : Bool :=
  x == y || (x.isZero && y.isZero)

end Binary64

end LogQuery
