import CommentSwitch.Text.Integer

/-!
# Replacement texts

A replacement is a text in which a dollar sign refers to a group of the match by its
number or its name, as in `$1`, `$name` or `${name}`.  Two dollar signs stand for one,
and a dollar sign that begins no reference stands for itself.

- `Replacement.read`: the parts of a replacement text
-/

namespace CommentSwitch

/-- A part of a replacement. -/
inductive ReplacementPart
  | literal (c : Char)
  | group (index : Nat)
  | named (name : Text)
  deriving DecidableEq, Repr

namespace Replacement

/-! ## §1 References -/

/-- Whether a character may stand in a reference without braces. -/
def isNameChar (c : Char) : Bool := c.isAlphanum || c == '_'

/-- The greatest number of a group. -/
def maxIndex : Nat := Nat.pow 2 64 - 1

/-- The number a reference is written as, with an optional plus sign. -/
def index? (name : Text) : Option Nat :=
  let digits := match name with
    | '+' :: digits => digits
    | digits => digits
  (Text.digitsValue? 10 digits).bind fun n => if n ≤ maxIndex then some n else none

/-- What a reference refers to. -/
def ofName (name : Text) : ReplacementPart :=
  match index? name with
  | some n => .group n
  | none => .named name

/-- Reads a reference behind its dollar sign. -/
def readReference? (t : Text) : Option (ReplacementPart × Text) :=
  match t with
  | '\x7b' :: rest =>
    (Text.cutOnce? '\x7d' rest).map fun (name, rest) => (ofName name, rest)
  | _ =>
    let name := t.takeWhile isNameChar
    if name.isEmpty then none else some (ofName name, t.drop name.length)

/-! ## §2 Reading -/

/-- Reads the parts of a replacement, at most `fuel` of them. -/
def readParts : (fuel : Nat) → Text → List ReplacementPart
  | 0, _ => []
  | _ + 1, [] => []
  | fuel + 1, '$' :: '$' :: rest => .literal '$' :: readParts fuel rest
  | fuel + 1, c :: rest =>
    if c = '$' then
      match readReference? rest with
      | some (part, rest) => part :: readParts fuel rest
      -- The dollar sign begins no reference, and what follows is read as usual.
      | none => .literal '$' :: readParts fuel rest
    else .literal c :: readParts fuel rest

/-- The parts of a replacement text. -/
def read (t : Text) : List ReplacementPart := readParts (t.length + 1) t

end Replacement

end CommentSwitch
