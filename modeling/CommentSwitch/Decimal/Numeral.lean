import CommentSwitch.Text.Integer

/-!
# Decimal numerals

Exact decimal numbers, and how they are written: digits with an optional point and an
optional exponent.

- `Decimal.ofText?`: the number that a numeral stands for
- `Decimal.plain`, `Decimal.scientific`: the notations of a number
- `Decimal.text`: the notation that is used for a number
-/

namespace CommentSwitch

/-- The number `coefficient * 10 ^ exponent`. -/
structure Decimal where
  coefficient : Nat
  exponent : Int
  deriving DecidableEq, Repr

namespace Decimal

/-! ## §1 Reading -/

/-- Reads an exponent: an optional sign and digits. -/
def exponentOf? : Text → Option Int
  | '-' :: digits => (Text.digitsValue? 10 digits).map fun n => -(n : Int)
  | '+' :: digits => (Text.digitsValue? 10 digits).map (↑·)
  | digits => (Text.digitsValue? 10 digits).map (↑·)

/-- Reads digits with an optional point among, before or behind them. -/
def mantissaOf? (t : Text) : Option Decimal :=
  match Text.cutOnce? '.' t with
  -- Without a point the digits are an integer.
  | none => (Text.digitsValue? 10 t).map fun n => ⟨n, 0⟩
  | some (whole, fraction) =>
    (Text.digitsValue? 10 (whole ++ fraction)).map fun n => ⟨n, -(fraction.length : Int)⟩

/-- The number that an unsigned numeral stands for. -/
def ofText? (t : Text) : Option Decimal := do
  let mantissa := t.takeWhile fun c => c != 'e' && c != 'E'
  let d ← mantissaOf? mantissa
  match t.drop mantissa.length with
  | [] => return d
  | _ :: rest => return ⟨d.coefficient, d.exponent + (← exponentOf? rest)⟩

/-! ## §2 Writing -/

/-- A run of zeros. -/
def zeros (n : Nat) : Text := List.replicate n '0'

/-- Drops the zeros at the end of the coefficient, at most `fuel` of them. -/
def normalFrom : (fuel : Nat) → Decimal → Decimal
  | 0, d => d
  | fuel + 1, d =>
    if d.coefficient ≠ 0 ∧ d.coefficient % 10 = 0 then
      normalFrom fuel ⟨d.coefficient / 10, d.exponent + 1⟩
    else d

/-- The same number with as few digits as possible. -/
def normal (d : Decimal) : Decimal := normalFrom (Text.ofNat d.coefficient).length d

/-- The digits with a point behind the first `n` of them, where `n` may lie to the left
of the digits or to their right. -/
def plain (digits : Text) (n : Int) : Text :=
  if n ≤ 0 then Text.ofString "0." ++ zeros (-n).toNat ++ digits
  else
    let whole := digits.take n.toNat
    let fraction := digits.drop n.toNat
    whole ++ zeros (n.toNat - digits.length) ++ '.' :: (if fraction.isEmpty then ['0'] else fraction)

/-- The digits with a point behind the first one, and the exponent that belongs to it. -/
def scientific (digits : Text) (n : Int) : Text :=
  match digits with
  | [] => []
  | first :: rest =>
    first :: (if rest.isEmpty then [] else '.' :: rest) ++ 'e' :: Text.ofInt (n - 1)

/-- The greatest number of digits in front of the point that is written without
exponent. -/
def maxWhole : Int := 16

/-- The number of zeros behind the point from which on an exponent is written. -/
def maxLeadingZeros : Int := 5

/-- A number without trailing zeros, with an exponent if it is large or small. -/
def text (d : Decimal) : Text :=
  if d.coefficient = 0 then Text.ofString "0.0"
  else
    let digits := Text.ofNat d.coefficient
    let n := digits.length + d.exponent
    if -maxLeadingZeros < n ∧ n ≤ maxWhole then plain digits n else scientific digits n

end Decimal

end CommentSwitch
