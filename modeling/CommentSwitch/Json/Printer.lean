import CommentSwitch.Text.Integer

/-!
# Writing JSON

Values with their fields in a given order, and the two forms in which they are written:
on one line, or with every item on a line of its own.

- `Json.compact`, `Json.pretty`: the two forms
-/

namespace CommentSwitch

/-- What is written as JSON. -/
inductive Json
  | number (n : Nat)
  | text (t : Text)
  | array (items : List Json)
  | object (fields : List (Text × Json))

namespace Json

/-! ## §1 Texts -/

/-- A digit of a hexadecimal number. -/
def hexDigit (n : Nat) : Char := Nat.digitChar (n % 16)

/-- How a character is written within quotes. -/
def escapeChar (c : Char) : Text :=
  match c with
  | '"' => ['\\', '"']
  | '\\' => ['\\', '\\']
  | '\x08' => ['\\', 'b']
  | '\x0c' => ['\\', 'f']
  | '\n' => ['\\', 'n']
  | '\r' => ['\\', 'r']
  | '\t' => ['\\', 't']
  | c =>
    if c.toNat < 0x20 then ['\\', 'u', '0', '0', hexDigit (c.toNat / 16), hexDigit c.toNat]
    else [c]

/-- A text within quotes. -/
def quote (t : Text) : Text := '"' :: t.flatMap escapeChar ++ ['"']

/-! ## §2 Values on one line -/

mutual

/-- A value on one line. -/
def compact : Json → Text
  | number n => Text.ofNat n
  | text t => quote t
  | array items => '[' :: compactItems items ++ [']']
  | object fields => '\x7b' :: compactFields fields ++ ['\x7d']

/-- Items on one line. -/
def compactItems : List Json → Text
  | [] => []
  | [v] => compact v
  | v :: l => compact v ++ ',' :: compactItems l

/-- Fields on one line. -/
def compactFields : List (Text × Json) → Text
  | [] => []
  | [(k, v)] => quote k ++ ':' :: compact v
  | (k, v) :: l => quote k ++ ':' :: compact v ++ ',' :: compactFields l

end

/-! ## §3 Values on several lines -/

/-- A line end and the indentation of the line behind it. -/
def lineBreak (depth : Nat) : Text := '\n' :: List.replicate (2 * depth) ' '

mutual

/-- A value with every item on a line of its own, indented by its depth. -/
def prettyAt (depth : Nat) : Json → Text
  | number n => Text.ofNat n
  | text t => quote t
  | array [] => ['[', ']']
  | array (v :: l) => '[' :: prettyItems (depth + 1) (v :: l) ++ lineBreak depth ++ [']']
  | object [] => ['\x7b', '\x7d']
  | object (e :: l) =>
    '\x7b' :: prettyFields (depth + 1) (e :: l) ++ lineBreak depth ++ ['\x7d']

/-- Items on lines of their own. -/
def prettyItems (depth : Nat) : List Json → Text
  | [] => []
  | [v] => lineBreak depth ++ prettyAt depth v
  | v :: l => lineBreak depth ++ prettyAt depth v ++ ',' :: prettyItems depth l

/-- Fields on lines of their own. -/
def prettyFields (depth : Nat) : List (Text × Json) → Text
  | [] => []
  | [(k, v)] => lineBreak depth ++ quote k ++ ':' :: ' ' :: prettyAt depth v
  | (k, v) :: l =>
    lineBreak depth ++ quote k ++ ':' :: ' ' :: prettyAt depth v ++ ',' :: prettyFields depth l

end

/-- A value with every item on a line of its own. -/
def pretty (v : Json) : Text := prettyAt 0 v

end Json

end CommentSwitch
