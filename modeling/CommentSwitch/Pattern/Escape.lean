import CommentSwitch.Pattern.Basic
import CommentSwitch.Pattern.Flags
import CommentSwitch.Text.Integer

/-!
# Escapes

What a backslash introduces: a character, a class of characters, or a condition on
the place.  Back-references and unknown letters are refused.

- `Escape.read?`: reads what follows a backslash
- `Literal.set?`: the set of characters that a literal stands for
-/

namespace CommentSwitch

/-! ## §1 Literals -/

/-- A character as it is written in a pattern. -/
structure Literal where
  char : Char
  /-- Whether it is written as a byte, with two hexadecimal digits. -/
  isByte : Bool

namespace Literal

/-- A character that stands for itself. -/
def plain (c : Char) : Literal := ⟨c, false⟩

/-- The set with all that differs from its members in case only, if case is ignored. -/
def folded (f : Flags) (s : CharSet) : CharSet :=
  if !f.ignoreCase then s
  else if f.unicode then .anyCase s
  else .anyAsciiCase s

/-- Whether a literal may be used: a byte beyond ASCII is no character of its own
where classes are confined to ASCII. -/
def isAllowed (f : Flags) (l : Literal) : Bool :=
  f.unicode || !l.isByte || l.char.toNat < 0x80

/-- The set that a literal stands for outside of brackets. -/
def set? (f : Flags) (l : Literal) : Option CharSet :=
  if !l.isAllowed f then none
  else if f.ignoreCase then some (folded f (.single l.char))
  else some (.single l.char)

end Literal

/-! ## §2 What an escape stands for -/

/-- The classes that escapes name. -/
inductive NamedClass
  | digit | blank | word
  deriving DecidableEq, Repr

/-- The characters of a class, or all others; among the others nothing is allowed
beyond ASCII where classes are confined to it. -/
def NamedClass.set? (f : Flags) (k : NamedClass) (negated : Bool) : Option CharSet :=
  if f.unicode then
    let s : CharSet := match k with
      | digit => .digit
      | blank => .blank
      | word => .word
    some (s.negateIf negated)
  -- The others reach beyond ASCII, so they are refused.
  else if negated then none
  else
    some <| match k with
      | digit => .asciiDigit
      | blank => .asciiSpace
      | word => .asciiWord

/-- What is written with a backslash. -/
inductive Escape
  | literal (l : Literal)
  | named (k : NamedClass) (negated : Bool)
  /-- A condition on the place, given whether words are confined to ASCII. -/
  | look (l : Bool → Look)

namespace Escape

/-- The characters that may be written with a backslash and stand for themselves:
all of ASCII but letters, digits and angle brackets. -/
def isPlain (c : Char) : Bool :=
  c.toNat < 0x80 && !c.isAlphanum && c != '<' && c != '>'

/-- The single letters with a meaning. -/
def ofLetter? : Char → Option Escape
  | 'a' => some (.literal (.plain '\x07'))
  | 'f' => some (.literal (.plain '\x0c'))
  | 't' => some (.literal (.plain '\t'))
  | 'n' => some (.literal (.plain '\n'))
  | 'r' => some (.literal (.plain '\r'))
  | 'v' => some (.literal (.plain '\x0b'))
  | 'd' => some (.named .digit false)
  | 'D' => some (.named .digit true)
  | 's' => some (.named .blank false)
  | 'S' => some (.named .blank true)
  | 'w' => some (.named .word false)
  | 'W' => some (.named .word true)
  | 'A' => some (.look fun _ => .textStart)
  | 'z' => some (.look fun _ => .textEnd)
  | 'b' => some (.look .wordBoundary)
  | 'B' => some (.look .notWordBoundary)
  | '<' => some (.look .wordStart)
  | '>' => some (.look .wordEnd)
  | c => if isPlain c then some (.literal (.plain c)) else none

/-! ## §3 Hexadecimal numbers -/

/-- The character with a code point, written in hexadecimal digits. -/
def charOfHex? (digits : Text) : Option Char :=
  (Text.digitsValue? 16 digits).bind fun n =>
    if h : n.isValidChar then some (Char.ofNatAux n h) else none

/-- Reads a number of hexadecimal digits. -/
def readDigits? (f : Flags) : (count : Nat) → Text → Option (Text × Text)
  | 0, t => some ([], t)
  | _ + 1, [] => none
  | n + 1, c :: rest =>
    if Text.digitValue c < 16 then
      (readDigits? f n (f.skipBlank rest)).map fun (digits, rest) => (c :: digits, rest)
    else none

/-- Reads hexadecimal digits up to a closing brace, at most `fuel` of them. -/
def readBraced? (f : Flags) : (fuel : Nat) → Text → Option (Text × Text)
  | 0, _ => none
  | _ + 1, [] => none
  | fuel + 1, c :: rest =>
    if c = '\x7d' then some ([], f.skipBlank rest)
    else if Text.digitValue c < 16 then
      (readBraced? f fuel (f.skipBlank rest)).map fun (digits, rest) => (c :: digits, rest)
    else none

/-- Reads a code point: a fixed number of hexadecimal digits, or any number of them
in braces. -/
def readHex? (f : Flags) (count : Nat) (t : Text) : Option (Escape × Text) := do
  match f.skipBlank t with
  | '\x7b' :: rest =>
    let (digits, rest) ← readBraced? f (rest.length + 1) (f.skipBlank rest)
    return (.literal ⟨← charOfHex? digits, false⟩, rest)
  | t =>
    let (digits, rest) ← readDigits? f count t
    return (.literal ⟨← charOfHex? digits, count == 2⟩, rest)

/-! ## §4 Ends of words -/

private def isNameChar (c : Char) : Bool := c.isAlpha || c == '-'

/-- The letters and minus signs at the start of a text, at most `fuel` of them. -/
def readName (f : Flags) : (fuel : Nat) → Text → Text × Text
  | 0, t => ([], t)
  | _ + 1, [] => ([], [])
  | fuel + 1, c :: rest =>
    if isNameChar c then
      let (name, rest) := readName f fuel (f.skipBlank rest)
      (c :: name, rest)
    else ([], c :: rest)

/-- The conditions that are named in braces. -/
def namedBoundary? (name : Text) : Option Escape :=
  match name.asString with
  | "start" => some (.look .wordStart)
  | "end" => some (.look .wordEnd)
  | "start-half" => some (.look .wordStartHalf)
  | "end-half" => some (.look .wordEndHalf)
  | _ => none

/-- Reads what follows the letter of a word boundary: a name in braces, or nothing
that belongs to it. -/
def readBoundary? (f : Flags) (t : Text) : Option (Escape × Text) :=
  match t with
  | '\x7b' :: inner =>
    match f.skipBlank inner with
    | [] => none
    | c :: rest =>
      if isNameChar c then
        match readName f (rest.length + 1) (c :: rest) with
        | (name, '\x7d' :: rest) => (namedBoundary? name).map fun e => (e, rest)
        | _ => none
      -- A brace without a name is no part of the escape but a repetition.
      else some (.look .wordBoundary, t)
  | _ => some (.look .wordBoundary, t)

/-! ## §5 Reading -/

/-- Reads what follows a backslash. -/
def read? (f : Flags) : Text → Option (Escape × Text)
  | [] => none
  | 'x' :: rest => readHex? f 2 rest
  | 'u' :: rest => readHex? f 4 rest
  | 'U' :: rest => readHex? f 8 rest
  | 'b' :: rest => readBoundary? f rest
  | c :: rest => (ofLetter? c).map fun e => (e, rest)

end Escape

end CommentSwitch
