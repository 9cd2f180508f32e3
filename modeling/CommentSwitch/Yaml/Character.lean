import CommentSwitch.Text.Basic

/-!
# Characters in YAML

The classes of characters by which a YAML stream is read and written.

- `Yaml.isAllowed`: what may stand in a stream
- `Yaml.isBreak`: what ends a line
- `Yaml.isPrintable`: what is written without an escape
-/

namespace CommentSwitch

namespace Yaml

/-- What may stand in a stream: no control characters but tabs and line ends. -/
def isAllowed (c : Char) : Bool :=
  let n := c.toNat
  n == 0x09 || n == 0x0A || n == 0x0D || (0x20 ≤ n && n ≤ 0x7E) || n == 0x85
    || (0xA0 ≤ n && n ≤ 0xFFFD) || 0x10000 ≤ n

/-- Spaces and tabs. -/
def isSpace (c : Char) : Bool := c == ' ' || c == '\t'

/-- The characters that end a line. -/
def isBreak (c : Char) : Bool :=
  c == '\n' || c == '\r' || c == '\u0085' || c == '\u2028' || c == '\u2029'

/-- Whether a text starts with a character that is neither a space nor a line end. -/
def startsInk (t : Text) : Bool :=
  match t with
  | [] => false
  | c :: _ => !isSpace c && !isBreak c

/-- The characters of names. -/
def isNameChar (c : Char) : Bool := c.isAlphanum || c == '_' || c == '-'

/-- Whether a character is one of some characters. -/
def isOneOf (chars : String) (c : Char) : Bool := chars.toList.contains c

/-- The characters that begin something else than a plain scalar. -/
def isIndicator (c : Char) : Bool := isOneOf "-?:,[]\x7b\x7d#&*!|>'\"%@\x60" c

/-- The characters that separate in flow collections. -/
def isFlowIndicator (c : Char) : Bool := isOneOf ",[]\x7b\x7d" c

/-- The byte order mark. -/
def byteOrderMark : Char := '\ufeff'

/-- What is written without an escape. -/
def isPrintable (c : Char) : Bool :=
  let n := c.toNat
  n == 0x0A || (0x20 ≤ n && n ≤ 0x7E) || (0xA0 ≤ n && n ≤ 0xFFFD && c != byteOrderMark)
    || 0x10000 ≤ n

end Yaml

end CommentSwitch
