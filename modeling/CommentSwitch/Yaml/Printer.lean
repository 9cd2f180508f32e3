import CommentSwitch.Yaml.Layout
import CommentSwitch.Yaml.Token
import CommentSwitch.Yaml.Value

/-!
# Writing documents

Writes mappings of texts in block style.  A text is written plainly where it reads back as
the same text, else in single quotes, or with escapes in double quotes; a text of several
lines is written as a block.

- `Presentation.ofText`: how a text is written
- `Content.print`: a document
-/

namespace CommentSwitch

namespace Yaml

/-! ## §1 The form of a scalar -/

/-- What the characters of a text allow. -/
structure Presentation where
  plain : Bool
  singleQuoted : Bool
  block : Bool

namespace Presentation

/-- The characters that a plain scalar in a block can not start with. -/
def isOpeningIndicator (c : Char) : Bool := isOneOf "#,[]\x7b\x7d&*!|>'\"%@\x60" c

/-- Whether a gap or the end follows. -/
def beforeGap (rest : Text) : Bool := !startsInk rest

/-- Whether the text would be read as something else than a plain scalar from some character
on; `afterGap` says whether a gap is in front of it. -/
def hasIndicator (afterGap : Bool) : Text → Bool
  | [] => false
  | c :: rest =>
    (c == ':' && beforeGap rest) || (c == '#' && afterGap)
      || hasIndicator (isSpace c || isBreak c) rest

/-- Whether the start of a text would be read as something else than a plain scalar. -/
def startsIndicator (t : Text) : Bool :=
  Text.startsWith "---".toList t || Text.startsWith "...".toList t ||
    match t with
    | [] => false
    | c :: rest => isOpeningIndicator c || ((c == '?' || c == '-') && beforeGap rest)

/-- Whether two neighbouring characters pass two tests. -/
def hasNeighbours (p q : Char → Bool) (t : Text) : Bool :=
  (t.zip (t.drop 1)).any fun (a, b) => p a && q b

/-- What the characters of a text allow. -/
def ofText (t : Text) : Presentation :=
  let atEnds (p : Char → Bool) : Bool := t.head?.any p || t.getLast?.any p
  let space (c : Char) : Bool := c == ' '
  let special := t.any (!isPrintable ·) || hasNeighbours space isBreak t
  let spaceAfterBreak := hasNeighbours isBreak space t
  { plain := !special && !t.any isBreak && !atEnds space && !startsIndicator t
      && !hasIndicator false t
    singleQuoted := !special && !spaceAfterBreak
    block := !t.isEmpty && !special && !t.getLast?.any space }

end Presentation

/-- Whether a plain scalar would not be read as a text, or looks like a padded number. -/
def needsQuotes (t : Text) : Bool := Scalar.value t != .text t || Scalar.isZeroPadded t

/-- How a text is written.  A key on the line of its value can not be a block. -/
def styleOf (asKey : Bool) (t : Text) : ScalarStyle :=
  let allowed := Presentation.ofText t
  let quoted := if allowed.singleQuoted then ScalarStyle.singleQuoted else .doubleQuoted
  -- A line feed can not stand in a plain text or in single quotes without being folded.
  if t.contains '\n' then if allowed.block && !asKey then .literal else .doubleQuoted
  else if needsQuotes t || !allowed.plain then quoted
  else .plain

/-! ## §2 Scalars -/

/-- A number in hexadecimal digits, with zeros in front. -/
def hex (width n : Nat) : Text :=
  let digits := (Nat.toDigits 16 n).map Char.toUpper
  List.replicate (width - digits.length) '0' ++ digits

/-- How a character is written with a backslash. -/
def escapeChar (c : Char) : Text :=
  '\\' :: match c with
    | '\x00' => ['0']
    | '\x07' => ['a']
    | '\x08' => ['b']
    | '\t' => ['t']
    | '\n' => ['n']
    | '\x0b' => ['v']
    | '\x0c' => ['f']
    | '\r' => ['r']
    | '\x1b' => ['e']
    | '"' => ['"']
    | '\\' => ['\\']
    | '\u0085' => ['N']
    | '\u00a0' => ['_']
    | '\u2028' => ['L']
    | '\u2029' => ['P']
    | c =>
      let n := c.toNat
      if n ≤ 0xFF then 'x' :: hex 2 n else if n ≤ 0xFFFF then 'u' :: hex 4 n else 'U' :: hex 8 n

/-- Writes a text in double quotes. -/
def putDoubleQuoted (t : Text) (o : Layout) : Layout :=
  let escape (c : Char) : Text :=
    if !isPrintable c || isBreak c || c == '"' || c == '\\' then escapeChar c else [c]
  ((o.gap.mark ['"'] false false).put (t.flatMap escape)).mark ['"'] false false

/-- Writes the lines of a text, each of them at a column; a line end goes before it is
indented. -/
def putLines (n : Nat) (escape : Char → Text) : (atStart : Bool) → Text → Layout → Layout
  | atStart, [], o => if atStart then o.indent n else o
  | atStart, c :: rest, o =>
    if isBreak c then putLines n escape true rest ((o.putBreak c).within true)
    else
      let o := if atStart then o.indent n else o
      putLines n escape false rest ((o.put (escape c)).within false)

/-- Writes a text in single quotes, where a quote is written twice. -/
def putSingleQuoted (n : Nat) (t : Text) (o : Layout) : Layout :=
  let escape (c : Char) : Text := if c = '\'' then ['\'', '\''] else [c]
  (putLines n escape false t (o.gap.mark ['\''] false false)).mark ['\''] false false

/-- The number of columns by which a collection is indented. -/
def indentStep : Nat := 2

/-- What is said about a block in its first line: its indentation, if it does not start with
a visible character, and how it ends. -/
def blockHints (t : Text) : Text :=
  let indentation := if t.head?.any fun c => c == ' ' || isBreak c then Text.ofNat indentStep else []
  let ending :=
    match t.reverse with
    | [] => ['-']
    | [c] => if isBreak c then ['+'] else ['-']
    | c :: d :: _ => if !isBreak c then ['-'] else if isBreak d then ['+'] else []
  indentation ++ ending

/-- Writes the lines of a block; at its end nothing is indented. -/
def putBlockLines (n : Nat) : (atStart : Bool) → Text → Layout → Layout
  | _, [], o => o
  | atStart, c :: rest, o =>
    if isBreak c then putBlockLines n true rest ((o.putBreak c).within true)
    else
      let o := if atStart then o.indent n else o
      putBlockLines n false rest ((o.put [c]).within false)

/-- Writes a text as a block. -/
def putBlock (n : Nat) (t : Text) (o : Layout) : Layout :=
  let o := (o.gap.mark ('|' :: blockHints t) false false).putBreak '\n'
  putBlockLines n true t { o with afterBlank := true, inIndent := true }

/-- Writes a text at a column. -/
def putText (n : Nat) (asKey : Bool) (t : Text) (o : Layout) : Layout :=
  match styleOf asKey t with
  | .plain => o.gap.mark t false false
  | .singleQuoted => putSingleQuoted n t o
  | .doubleQuoted => putDoubleQuoted t o
  | _ => putBlock n t o

/-! ## §3 Documents -/

/-- What is written: truth values, texts, and mappings. -/
inductive Content
  | bool (b : Bool)
  | text (t : Text)
  | mapping (entries : List (Text × Content))

/-- The greatest number of bytes of a key on the line of its value. -/
def maxShortKey : Nat := 128

/-- Whether a key stands on the line of its value. -/
def isShortKey (k : Text) : Bool := !k.any isBreak && k.asString.utf8ByteSize ≤ maxShortKey

/-- Writes a key at a column, up to the colon. -/
def putKey (n : Nat) (k : Text) (o : Layout) : Layout :=
  let o := o.indent n
  -- A long key gets a mark, and its value a line of its own.
  if isShortKey k then (putText (n + indentStep) true k o).mark [':'] false false
  else
    let o := putText (n + indentStep) false k (o.gap.mark ['?'] false true)
    (o.indent n).gap.mark [':'] false true

namespace Content

mutual

/-- Writes a value, whose own entries stand at a column. -/
def put (n : Nat) : Content → Layout → Layout
  | bool b, o => o.gap.mark (if b then "true".toList else "false".toList) false false
  | text t, o => putText n false t o
  | mapping [], o => (o.gap.mark ['\x7b'] true false).mark ['\x7d'] false false
  | mapping (e :: l), o => putEntries n (e :: l) o

/-- Writes entries at a column. -/
def putEntries (n : Nat) : List (Text × Content) → Layout → Layout
  | [], o => o
  | (k, v) :: l, o => putEntries n l (put (n + indentStep) v (putKey n k o))

end

/-- The document that holds some entries. -/
def print (entries : List (Text × Content)) : Text :=
  ((put 0 (mapping entries) .start).indent 0).text

end Content

end Yaml

end CommentSwitch
