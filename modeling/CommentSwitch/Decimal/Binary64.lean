import CommentSwitch.Decimal.Numeral

/-!
# Binary floating-point numbers of 64 bits

Positive numbers `mantissa * 2 ^ exponent` with 53 binary digits and bounded exponents,
in exact arithmetic: the nearest such number to a decimal one, and the shortest decimal
number to which it is the nearest.

- `Binary64.nearest?`: rounding, a tie going to the even mantissa
- `Binary64.shortest`: the shortest decimal number that rounds to a given one
-/

namespace CommentSwitch

/-- The number `mantissa * 2 ^ exponent`. -/
structure Binary64 where
  mantissa : Nat
  exponent : Int
  deriving DecidableEq, Repr

namespace Binary64

/-! ## §1 Fractions -/

/-- A positive fraction. -/
structure Fraction where
  num : Nat
  den : Nat

namespace Fraction

/-- The fraction times a power of a base. -/
def scale (q : Fraction) (base : Nat) (e : Int) : Fraction :=
  if 0 ≤ e then ⟨q.num * base.pow e.toNat, q.den⟩ else ⟨q.num, q.den * base.pow (-e).toNat⟩

/-- The greatest integer that is not greater. -/
def floor (q : Fraction) : Nat := q.num / q.den

/-- The nearest integer, a tie going to the even one. -/
def round (q : Fraction) : Nat :=
  let n := q.floor
  let rest := 2 * (q.num % q.den)
  if rest < q.den ∨ (rest = q.den ∧ n % 2 = 0) then n else n + 1

/-- Whether one fraction is less than another. -/
def lt (p q : Fraction) : Bool := p.num * q.den < q.num * p.den

end Fraction

/-- The value of a decimal number as a fraction. -/
def ofDecimal (d : Decimal) : Fraction :=
  Fraction.scale ⟨d.coefficient, 1⟩ 10 d.exponent

/-- The value as a fraction. -/
def value (b : Binary64) : Fraction := Fraction.scale ⟨b.mantissa, 1⟩ 2 b.exponent

/-! ## §2 Rounding -/

/-- The least exponent. -/
def minExponent : Int := -1074

/-- The greatest exponent. -/
def maxExponent : Int := 971

/-- The first number that is no mantissa. -/
def mantissaLimit : Nat := Nat.pow 2 53

/-- The exponent at which a fraction has 53 binary digits in front of the point. -/
def exponentOf (q : Fraction) : Int :=
  let e : Int := Nat.log2 q.num - Nat.log2 q.den - 52
  -- The estimate from the sizes may be one too large.
  let e := if (q.scale 2 (-e)).lt ⟨mantissaLimit / 2, 1⟩ then e - 1 else e
  max e minExponent

/-- The nearest number to a positive fraction; `none` if that is out of range. -/
def round? (q : Fraction) : Option Binary64 :=
  let e := exponentOf q
  let m := (q.scale 2 (-e)).round
  -- Rounding up may add a binary digit.
  let b : Binary64 := if m = mantissaLimit then ⟨m / 2, e + 1⟩ else ⟨m, e⟩
  if b.exponent ≤ maxExponent then some b else none

/-- The greatest and the least number of digits in front of the point for which a
decimal number is looked at more closely. -/
def decimalRange : Int := 400

/-- The nearest number to a decimal one; `none` if that is out of range. -/
def nearest? (d : Decimal) : Option Binary64 :=
  let size := (Text.ofNat d.coefficient).length + d.exponent
  -- Far out of range the powers of ten are not even computed.
  if d.coefficient = 0 ∨ size < -decimalRange then some ⟨0, minExponent⟩
  else if decimalRange < size then none
  else round? (ofDecimal d)

/-! ## §3 Shortest decimal numbers -/

/-- The numbers between a number and its neighbours, and whether they round to it
themselves. -/
structure Interval where
  low : Fraction
  high : Fraction
  closed : Bool

/-- What rounds to a positive number.  The neighbour below the least mantissa is half as
far away. -/
def interval (b : Binary64) : Interval where
  low :=
    if b.mantissa = mantissaLimit / 2 ∧ minExponent < b.exponent then
      Fraction.scale ⟨4 * b.mantissa - 1, 1⟩ 2 (b.exponent - 2)
    else Fraction.scale ⟨2 * b.mantissa - 1, 1⟩ 2 (b.exponent - 1)
  high := Fraction.scale ⟨2 * b.mantissa + 1, 1⟩ 2 (b.exponent - 1)
  closed := b.mantissa % 2 = 0

/-- Whether a fraction rounds to the number that an interval belongs to. -/
def Interval.holds (i : Interval) (q : Fraction) : Bool :=
  if i.closed then !q.lt i.low && !i.high.lt q else i.low.lt q && q.lt i.high

/-- The number of digits in front of the point of a fraction; none or less than none
for a fraction below one tenth. -/
def wholeDigits (q : Fraction) : Int :=
  let n : Int := (Text.ofNat q.num).length - (Text.ofNat q.den).length
  if q.lt (Fraction.scale ⟨1, 1⟩ 10 n) then n else n + 1

/-- The decimal number with a given exponent that is next to a fraction, if it lies in
an interval; of two, the nearer one, and of two equally near, the even one. -/
def candidate? (i : Interval) (q : Fraction) (exponent : Int) : Option Decimal :=
  let scaled := q.scale 10 (-exponent)
  let below : Decimal := ⟨scaled.floor, exponent⟩
  let above : Decimal := ⟨scaled.floor + 1, exponent⟩
  match i.holds (ofDecimal below), i.holds (ofDecimal above) with
  | true, true => some ⟨scaled.round, exponent⟩
  | true, false => some below
  | false, true => some above
  | false, false => none

/-- The first candidate with `count` digits or more, up to `count + fuel`. -/
def shortestFrom (i : Interval) (q : Fraction) : (fuel count : Nat) → Decimal
  -- Seventeen digits always suffice.
  | 0, count => ⟨(q.scale 10 (count - wholeDigits q)).round, wholeDigits q - count⟩
  | fuel + 1, count =>
    match candidate? i q (wholeDigits q - count) with
    | some d => d
    | none => shortestFrom i q fuel (count + 1)

/-- The shortest decimal number that rounds to a given one, and the nearest of those. -/
def shortest (b : Binary64) : Decimal :=
  if b.mantissa = 0 then ⟨0, 0⟩
  else (shortestFrom b.interval b.value 16 1).normal

end Binary64

end CommentSwitch
