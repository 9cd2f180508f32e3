import CommentSwitch.Text.Basic

/-!
# Integers in texts

Decimal numerals are read with an optional sign and ASCII digits only, and only
when the value fits the signed 64-bit range.

- `Text.digitsValue?`: the value of a non-empty run of digits in a given base
- `Text.toInt64?`: a signed 64-bit integer
- `Text.ofNat`: the decimal digits of a number
-/

namespace CommentSwitch

namespace Text

/-! ## §1 Digits -/

/-- The value of an ASCII digit or letter as a digit, `36` for any other character. -/
def digitValue (c : Char) : Nat :=
  if c.isDigit then c.toNat - '0'.toNat
  else if 'a' ≤ c ∧ c ≤ 'z' then c.toNat - 'a'.toNat + 10
  else if 'A' ≤ c ∧ c ≤ 'Z' then c.toNat - 'A'.toNat + 10
  else 36

/-- The value of a non-empty run of digits below `base`. -/
def digitsValue? (base : Nat) (t : Text) : Option Nat :=
  if !t.isEmpty && t.all (digitValue · < base) then
    some (t.foldl (fun n c => n * base + digitValue c) 0)
  else none

/-- The decimal digits of a number. -/
def ofNat (n : Nat) : Text := Nat.toDigits 10 n

/-- The decimal digits of an integer, after a minus sign if it is negative. -/
def ofInt : Int → Text
  | .ofNat n => ofNat n
  | .negSucc n => '-' :: ofNat (n + 1)

/-! ## §2 Signed 64-bit integers -/

/-- The least signed 64-bit integer. -/
def minInt64 : Int := -9223372036854775808

/-- The greatest signed 64-bit integer. -/
def maxInt64 : Int := 9223372036854775807

/-- An integer, if it fits 64 bits with sign. -/
def asInt64? (n : Int) : Option Int :=
  if minInt64 ≤ n ∧ n ≤ maxInt64 then some n else none

/-- Reads a decimal integer: an optional sign, then digits, nothing else, and no
value outside the signed 64-bit range. -/
def toInt64? : Text → Option Int
  | '-' :: digits => (digitsValue? 10 digits).bind fun n => asInt64? (-(n : Int))
  | '+' :: digits => (digitsValue? 10 digits).bind fun n => asInt64? n
  | digits => (digitsValue? 10 digits).bind fun n => asInt64? n

end Text

end CommentSwitch
