import CommentSwitch.Text.Integer
import CommentSwitch.Yaml.Cursor
import CommentSwitch.Yaml.Token

/-!
# Tags, anchors and directives

Reads what can stand in front of a node or of a document: tags, with their handles and
escapes, the names of anchors, and directives.

- `Tag.read?`: a tag behind its exclamation mark
- `Tag.readName?`: the name of an anchor or an alias
- `Tag.readDirective?`: a directive behind its percent sign
-/

namespace CommentSwitch

namespace Yaml

namespace Tag

/-! ## §1 Characters of tags -/

/-- What may stand in a tag; within angle brackets there is more. -/
def isTagChar (inBrackets : Bool) (c : Char) : Bool :=
  isNameChar c || isOneOf ";/?:@&=+$.%!~*'()" c || (inBrackets && isOneOf ",[]" c)

/-- Reads an octet that is written with a percent sign and two digits. -/
def readOctet? : Text → Option (Nat × Text)
  | '%' :: a :: b :: rest => (Text.digitsValue? 16 [a, b]).map fun n => (n, rest)
  | _ => none

/-- Reads `count` further octets of a character, each of which adds six bits. -/
def readContinuation? : (count : Nat) → (value : Nat) → Text → Option (Nat × Text)
  | 0, value, t => some (value, t)
  | count + 1, value, t => do
    let (octet, t) ← readOctet? t
    -- A further octet starts with the bits one and zero.
    if octet / 64 = 2 then readContinuation? count (value * 64 + octet % 64) t else none

/-- Reads a character that is written in escaped octets. -/
def readEscaped? (t : Text) : Option (Char × Text) := do
  let (octet, t) ← readOctet? t
  let (value, t) ←
    if octet < 0x80 then some (octet, t)
    else if octet / 32 = 6 then readContinuation? 1 (octet % 32) t
    else if octet / 16 = 14 then readContinuation? 2 (octet % 16) t
    else if octet / 8 = 30 then readContinuation? 3 (octet % 8) t
    else none
  return (Char.ofNat value, t)

/-- Reads the characters of a tag, at most `fuel` of them. -/
def readCharsFrom? (inBrackets : Bool) : (fuel : Nat) → Text → Option (Text × Text)
  | 0, _ => none
  | _ + 1, [] => some ([], [])
  | fuel + 1, c :: rest =>
    if c = '%' then do
      let (x, rest) ← readEscaped? (c :: rest)
      let (chars, rest) ← readCharsFrom? inBrackets fuel rest
      return (x :: chars, rest)
    else if isTagChar inBrackets c then do
      let (chars, rest) ← readCharsFrom? inBrackets fuel rest
      return (c :: chars, rest)
    else some ([], c :: rest)

/-- Reads the characters of a tag. -/
def readChars? (inBrackets : Bool) (c : Cursor) : Option (Text × Cursor) := do
  let (chars, rest) ← readCharsFrom? inBrackets (c.rest.length + 1) c.rest
  return (chars, c.skip (c.rest.length - rest.length))

/-- The same, where something has to be there. -/
def readSomeChars? (inBrackets : Bool) (c : Cursor) : Option (Text × Cursor) := do
  let (chars, c) ← readChars? inBrackets c
  if chars.isEmpty then none else return (chars, c)

/-! ## §2 Tags -/

/-- Reads a name between exclamation marks, the first of which has been read; the last one
may be missing. -/
def readHandle (c : Cursor) : Text × Bool × Cursor :=
  let (name, c) := c.takeWhile isNameChar
  if c.looksAt (· == '!') then (name, true, c.skip 1) else (name, false, c)

/-- The text of a handle. -/
def handleText (name : Text) : Text := '!' :: name ++ ['!']

/-- Reads a tag that is not within angle brackets. -/
def readShort? (c : Cursor) : Option (Token × Cursor) := do
  let (name, closed, next) := readHandle c
  if closed then
    let (suffix, c) ← readSomeChars? false next
    return (.tag (handleText name) suffix, c)
  else
    let (more, c) ← readChars? false next
    match name ++ more with
    -- A mere exclamation mark is a tag without a handle.
    | [] => return (.tag [] ['!'], c)
    | suffix => return (.tag ['!'] suffix, c)

/-- Reads a tag within angle brackets, behind the first of them. -/
def readVerbatim? (c : Cursor) : Option (Token × Cursor) := do
  let (suffix, c) ← readSomeChars? true c
  if c.looksAt (· == '>') then return (.tag [] suffix, c.skip 1) else none

/-- Reads a tag behind its exclamation mark.  A gap follows a tag, or in a flow collection a
comma. -/
def read? (flow : Bool) (c : Cursor) : Option (Token × Cursor) := do
  let (t, c) ← if c.looksAt (· == '<') then readVerbatim? (c.skip 1) else readShort? c
  if c.atGap || (flow && c.looksAt (· == ',')) then return (t, c) else none

/-! ## §3 Anchors -/

/-- Reads the name of an anchor or an alias, which is not empty and is followed by a gap or
by some indicators. -/
def readName? (c : Cursor) : Option (Text × Cursor) :=
  let (name, c) := c.takeWhile isNameChar
  if !name.isEmpty && (c.atGap || c.looksAt (isOneOf "?:,]\x7d%@\x60")) then some (name, c)
  else none

/-! ## §4 Directives -/

/-- Reads a number of a version, which has at most nine digits. -/
def readVersionNumber? (c : Cursor) : Option (Nat × Cursor) := do
  let (digits, c) := c.takeWhile Char.isDigit
  let n ← Text.digitsValue? 10 digits
  if digits.length ≤ 9 then return (n, c) else none

/-- Reads the two numbers of a version. -/
def readVersion? (c : Cursor) : Option (Token × Cursor) := do
  let (major, c) ← readVersionNumber? (c.skipWhile isSpace)
  if c.looksAt (· == '.') then
    let (minor, c) ← readVersionNumber? (c.skip 1)
    return (.versionDirective major minor, c)
  else none

/-- Reads a handle and what it stands for. -/
def readExpansion? (c : Cursor) : Option (Token × Cursor) := do
  let c := c.skipWhile isSpace
  if c.looksAt (· == '!') then
    let (name, closed, c) := readHandle (c.skip 1)
    let handle := if closed then handleText name else ['!']
    if (closed || name.isEmpty) && c.looksAt isSpace then
      let (expansion, c) ← readSomeChars? true (c.skipWhile isSpace)
      if c.atGap then return (.tagDirective handle expansion, c) else none
    else none
  else none

/-- Reads a directive behind its percent sign, up to the end of the line. -/
def readDirective? (c : Cursor) : Option (Token × Cursor) := do
  let (name, c) := c.takeWhile isNameChar
  let (t, c) ←
    if !c.atGap then none
    else if name = ['Y', 'A', 'M', 'L'] then readVersion? c
    else if name = ['T', 'A', 'G'] then readExpansion? c
    else none
  let c := (c.skipWhile isSpace).skipComment
  if c.atLineEnd then return (t, c.skipBreak) else none

end Tag

end Yaml

end CommentSwitch
