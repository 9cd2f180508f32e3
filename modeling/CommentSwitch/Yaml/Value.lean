import CommentSwitch.Decimal.Binary64
import CommentSwitch.Yaml.Character

/-!
# Values of plain scalars

What a plain scalar stands for: nothing, a truth value, a number, or its own text.
Numbers are integers of 64 bits or floating-point numbers of 64 bits; larger integers
are recognised but can not be used.

- `Scalar.value`: what a plain scalar stands for
- `Number.text`: how a number is written
-/

namespace CommentSwitch

namespace Yaml

/-! ## §1 Numbers -/

/-- A number. -/
inductive Number
  /-- An integer from `0` to `2 ^ 64 - 1`. -/
  | natural (n : Nat)
  /-- An integer from `-2 ^ 63` to `-1`. -/
  | negative (n : Int)
  /-- A finite floating-point number. -/
  | finite (isNegative : Bool) (magnitude : Binary64)
  | infinite (isNegative : Bool)
  | notANumber
  deriving DecidableEq, Repr

namespace Number

/-- How a number is written. -/
def text : Number → Text
  | natural n => Text.ofNat n
  | negative n => Text.ofInt n
  | finite isNegative b => (if isNegative then ['-'] else []) ++ b.shortest.text
  | infinite isNegative => (if isNegative then "-.inf" else ".inf").toList
  | notANumber => ".nan".toList

/-- Whether two numbers are the same; the two floating-point zeros are. -/
def same : Number → Number → Bool
  | finite s b, finite t c => (b.mantissa == 0 && c.mantissa == 0) || (s == t && b == c)
  | m, n => m == n

end Number

namespace Scalar

/-! ## §2 Words -/

/-- Whether a scalar stands for nothing. -/
def isNull (t : Text) : Bool :=
  t == "null".toList || t == "Null".toList || t == "NULL".toList || t == ['~']

/-- The truth value that a scalar stands for. -/
def bool? (t : Text) : Option Bool :=
  if t = "true".toList ∨ t = "True".toList ∨ t = "TRUE".toList then some true
  else if t = "false".toList ∨ t = "False".toList ∨ t = "FALSE".toList then some false
  else none

/-! ## §3 Integers -/

/-- Drops one plus sign at the start. -/
def dropPlus : Text → Text
  | '+' :: rest => rest
  | t => t

/-- Drops one sign at the start. -/
def dropSign : Text → Text
  | '+' :: rest => rest
  | '-' :: rest => rest
  | t => t

/-- Whether a scalar is a run of digits that starts with a zero, which is no number. -/
def isZeroPadded (t : Text) : Bool :=
  match dropSign t with
  | '0' :: c :: rest => (c :: rest).all Char.isDigit
  | _ => false

/-- The base that the start of a numeral announces, and the digits behind it. -/
def announcedBase? : Text → Option (Nat × Text)
  | '0' :: 'x' :: digits => some (16, digits)
  | '0' :: 'o' :: digits => some (8, digits)
  | '0' :: 'b' :: digits => some (2, digits)
  | _ => none

/-- The value of a numeral without sign that is at most `limit`. -/
def magnitude? (limit : Nat) (isPadded : Bool) (t : Text) : Option Nat :=
  let fits (n : Nat) : Option Nat := if n ≤ limit then some n else none
  match announcedBase? t with
  | some (base, digits) => (Text.digitsValue? base digits).bind fits
  | none => if isPadded then none else (Text.digitsValue? 10 t).bind fits

/-- The integer that a scalar stands for, if it has no minus sign and is at most `limit`. -/
def natural? (limit : Nat) (t : Text) : Option Nat :=
  magnitude? limit (isZeroPadded t) (dropPlus t)

/-- The integer behind a minus sign that a scalar stands for, if it is at most `limit`. -/
def negated? (limit : Nat) : Text → Option Nat
  | '-' :: rest => magnitude? limit (isZeroPadded ('-' :: rest)) rest
  | _ => none

/-- What a scalar that is written as an integer stands for. -/
inductive Integer
  | number (n : Number)
  /-- An integer of more than 64 bits. -/
  | tooLarge
  deriving DecidableEq, Repr

/-- The integer that a scalar stands for; from 129 bits on it is none. -/
def integer? (t : Text) : Option Integer :=
  match natural? (Nat.pow 2 64 - 1) t, negated? (Nat.pow 2 63) t with
  | some n, _ => some (.number (.natural n))
  | none, some 0 => some (.number (.natural 0))
  | none, some n => some (.number (.negative (-n)))
  | none, none =>
    if (natural? (Nat.pow 2 128 - 1) t).isSome ∨ (negated? (Nat.pow 2 127) t).isSome then some .tooLarge
    else none

/-! ## §4 Floating-point numbers -/

/-- The finite number that a numeral stands for, if it is in range. -/
def finite? (t : Text) : Option Number := do
  let (isNegative, digits) := match t with
    | '-' :: digits => (true, digits)
    | digits => (false, dropPlus digits)
  return .finite isNegative (← Binary64.nearest? (← Decimal.ofText? digits))

/-- Whether a text is one of the spellings of a word: small, capital at the start, or all
capital. -/
def isInfinity (t : Text) : Bool :=
  t == ".inf".toList || t == ".Inf".toList || t == ".INF".toList

/-- Whether a text says that something is not a number. -/
def isNotANumber (t : Text) : Bool :=
  t == ".nan".toList || t == ".NaN".toList || t == ".NAN".toList

/-- The floating-point number that a scalar stands for. -/
def float? (t : Text) : Option Number :=
  if isInfinity (dropPlus t) then some (.infinite false)
  else if isNotANumber t then some .notANumber
  else
    match t with
    | '-' :: rest => if isInfinity rest then some (.infinite true) else finite? t
    | _ => finite? t

/-! ## §5 Plain scalars -/

/-- What a scalar stands for. -/
inductive Value
  | null
  | bool (b : Bool)
  | number (n : Number)
  | text (t : Text)
  /-- An integer that can not be used. -/
  | tooLarge
  deriving DecidableEq, Repr

/-- What a plain scalar stands for. -/
def value (t : Text) : Value :=
  if t.isEmpty || isNull t then .null
  else
    match bool? t, integer? t with
    | some b, _ => .bool b
    | none, some (.number n) => .number n
    | none, some .tooLarge => .tooLarge
    | none, none =>
      -- A run of digits with zeros in front is kept as it is written.
      if isZeroPadded t then .text t
      else
        match float? t with
        | some n => .number n
        | none => .text t

end Scalar

end Yaml

end CommentSwitch
