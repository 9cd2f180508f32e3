import CommentSwitch.Decimal.Binary64

/-!
# Reading JSON

Reads JSON texts.  Values may be nested to a limited depth.  Integers from zero to
`2 ^ 64 - 1` are kept; other numbers are only recognised.

- `JsonValue.read?`: the value that a text stands for
-/

namespace CommentSwitch

/-- What is read from a JSON text. -/
inductive JsonValue
  | null
  | bool (b : Bool)
  /-- An integer from zero to `2 ^ 64 - 1`. -/
  | natural (n : Nat)
  /-- Any other number. -/
  | number
  | text (t : Text)
  | array (items : List JsonValue)
  | object (fields : List (Text × JsonValue))

namespace JsonValue

/-! ## §1 Blank -/

/-- The blank between the parts of a value. -/
def isBlank (c : Char) : Bool := c == ' ' || c == '\t' || c == '\n' || c == '\r'

/-- Passes over blank. -/
def skipBlank (t : Text) : Text := t.dropWhile isBlank

/-! ## §2 Texts -/

/-- Reads four hexadecimal digits. -/
def readUnit? : Text → Option (Nat × Text)
  | a :: b :: c :: d :: rest => (Text.digitsValue? 16 [a, b, c, d]).map fun n => (n, rest)
  | _ => none

/-- Reads a code point behind `\u`: one unit, or two that belong together. -/
def readCode? (t : Text) : Option (Char × Text) := do
  let (high, t) ← readUnit? t
  if h : high.isValidChar then return (Char.ofNatAux high h, t)
  else
    match t with
    | '\\' :: 'u' :: t =>
      let (low, t) ← readUnit? t
      -- The two units have to be a high one and a low one.
      if high < 0xDC00 ∧ 0xDC00 ≤ low ∧ low < 0xE000 then
        return (Char.ofNat (0x10000 + (high - 0xD800) * 0x400 + (low - 0xDC00)), t)
      else none
    | _ => none

/-- The escapes of a single letter. -/
def escaped? : Char → Option Char
  | '"' => some '"'
  | '\\' => some '\\'
  | '/' => some '/'
  | 'b' => some '\x08'
  | 'f' => some '\x0c'
  | 'n' => some '\n'
  | 'r' => some '\r'
  | 't' => some '\t'
  | _ => none

/-- Reads the characters up to the closing quote, at most `fuel` of them. -/
def readChars? : (fuel : Nat) → Text → Option (Text × Text)
  | 0, _ => none
  | _ + 1, [] => none
  | _ + 1, '"' :: rest => some ([], rest)
  | fuel + 1, '\\' :: 'u' :: rest => do
    let (c, rest) ← readCode? rest
    let (t, rest) ← readChars? fuel rest
    return (c :: t, rest)
  | fuel + 1, '\\' :: x :: rest => do
    let c ← escaped? x
    let (t, rest) ← readChars? fuel rest
    return (c :: t, rest)
  | fuel + 1, c :: rest =>
    if c.toNat < 0x20 ∨ c = '\\' then none
    else do
      let (t, rest) ← readChars? fuel rest
      return (c :: t, rest)

/-- Reads a text behind its opening quote. -/
def readText? (t : Text) : Option (Text × Text) := readChars? (t.length + 1) t

/-! ## §3 Numbers -/

/-- Reads digits. -/
def readDigits (t : Text) : Text × Text := (t.takeWhile Char.isDigit, t.dropWhile Char.isDigit)

/-- Reads digits of which there is at least one. -/
def readSomeDigits? (t : Text) : Option (Text × Text) :=
  let (digits, rest) := readDigits t
  if digits.isEmpty then none else some (digits, rest)

/-- Reads the digits in front of a point; a zero is not followed by further digits. -/
def readWhole? (t : Text) : Option (Text × Text) := do
  let (digits, rest) ← readSomeDigits? t
  -- A padded number is no number.
  if digits.head? = some '0' ∧ 1 < digits.length then none else return (digits, rest)

/-- Reads a point with digits, if there is one. -/
def readFraction? : Text → Option (Text × Text)
  | '.' :: rest => do
    let (digits, rest) ← readSomeDigits? rest
    return ('.' :: digits, rest)
  | t => some ([], t)

/-- Reads an exponent, if there is one. -/
def readExponent? (t : Text) : Option (Text × Text) :=
  match t with
  | c :: rest =>
    if c = 'e' ∨ c = 'E' then
      let (sign, rest) := match rest with
        | '-' :: rest => (['-'], rest)
        | '+' :: rest => ([], rest)
        | rest => ([], rest)
      (readSomeDigits? rest).map fun (digits, rest) => ('e' :: sign ++ digits, rest)
    else some ([], t)
  | [] => some ([], t)

/-- Reads a number, perhaps behind a minus sign.  It has to be in the range of
floating-point numbers. -/
def readNumber? (isNegative : Bool) (t : Text) : Option (JsonValue × Text) := do
  let (whole, t) ← readWhole? t
  let (fraction, t) ← readFraction? t
  let (exponent, t) ← readExponent? t
  if fraction.isEmpty && exponent.isEmpty && !isNegative then
    let n ← Text.digitsValue? 10 whole
    if n < Nat.pow 2 64 then return (natural n, t)
  -- The value is not kept, but one that is out of range is refused.
  let _ ← Binary64.nearest? (← Decimal.ofText? (whole ++ fraction ++ exponent))
  return (number, t)

/-! ## §4 Values -/

/-- The greatest depth to which values may be nested. -/
def maxDepth : Nat := 127

/-- The words that are values. -/
def readWord? (t : Text) : Option (JsonValue × Text) :=
  let words := [("null", null), ("true", bool true), ("false", bool false)]
  words.findSome? fun (word, v) => (Text.afterToken? word.toList t).map fun rest => (v, rest)

mutual

/-- Reads a value within `depth` further levels. -/
def readValue? : (fuel depth : Nat) → Text → Option (JsonValue × Text)
  | 0, _, _ => none
  | fuel + 1, depth, t =>
    match skipBlank t with
    | '"' :: rest => (readText? rest).map fun (t, rest) => (text t, rest)
    | '-' :: rest => readNumber? true rest
    | '[' :: rest =>
      if depth = 0 then none
      else
        match skipBlank rest with
        | ']' :: rest => some (array [], rest)
        | rest => (readItems? fuel (depth - 1) rest).map fun (l, rest) => (array l, rest)
    | '\x7b' :: rest =>
      if depth = 0 then none
      else
        match skipBlank rest with
        | '\x7d' :: rest => some (object [], rest)
        | rest => (readFields? fuel (depth - 1) rest).map fun (l, rest) => (object l, rest)
    | t => if t.head?.any Char.isDigit then readNumber? false t else readWord? t

/-- Reads the items of an array, of which there is at least one. -/
def readItems? : (fuel depth : Nat) → Text → Option (List JsonValue × Text)
  | 0, _, _ => none
  | fuel + 1, depth, t => do
    let (v, rest) ← readValue? fuel depth t
    match skipBlank rest with
    | ']' :: rest => return ([v], rest)
    | ',' :: rest =>
      let (l, rest) ← readItems? fuel depth rest
      return (v :: l, rest)
    | _ => none

/-- Reads the fields of an object, of which there is at least one. -/
def readFields? : (fuel depth : Nat) → Text → Option (List (Text × JsonValue) × Text)
  | 0, _, _ => none
  | fuel + 1, depth, t => do
    let (k, rest) ← match skipBlank t with
      | '"' :: rest => readText? rest
      | _ => none
    let (v, rest) ← match skipBlank rest with
      | ':' :: rest => readValue? fuel depth rest
      | _ => none
    match skipBlank rest with
    | '\x7d' :: rest => return ([(k, v)], rest)
    | ',' :: rest =>
      let (l, rest) ← readFields? fuel depth rest
      return ((k, v) :: l, rest)
    | _ => none

end

/-- The value that a text stands for. -/
def read? (t : Text) : Option JsonValue := do
  let (v, rest) ← readValue? (2 * t.length + 2) maxDepth t
  if (skipBlank rest).isEmpty then return v else none

end JsonValue

end CommentSwitch
