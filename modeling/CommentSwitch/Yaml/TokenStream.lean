import CommentSwitch.Yaml.Scalar
import CommentSwitch.Yaml.Tag

/-!
# The tokens of a stream

Reads a stream into tokens.  Indentation opens and closes block collections.  A scalar or
collection that turns out to be a key, because a colon follows it on the same line, gets a
token in front of it; until that is clear, its place is remembered.

- `Yaml.tokens`: the tokens of a text, as far as it can be read
-/

namespace CommentSwitch

namespace Yaml

/-! ## §1 The state of reading -/

/-- A place where a key may have started. -/
structure PossibleKey where
  /-- The number of tokens before it. -/
  number : Nat
  start : Cursor
  /-- Whether nothing else than a key can stand there. -/
  required : Bool

/-- The state of reading a stream. -/
structure TokenReader where
  cursor : Cursor
  /-- The number of open flow collections. -/
  flow : Nat
  /-- The column of the innermost block collection; `-1` outside of any. -/
  indent : Int
  /-- The columns of the collections around it. -/
  outer : List Int
  /-- Whether a key may start here. -/
  keyAllowed : Bool
  /-- For every open flow collection, innermost first, and for the block around them, where
  a key may have started. -/
  keys : List (Option PossibleKey)
  /-- The tokens so far, latest first. -/
  tokens : List Token

namespace TokenReader

/-- The state at the start of a text. -/
def start (t : Text) : TokenReader := ⟨.start t, 0, -1, [], true, [none], []⟩

/-- Adds a token. -/
def emit (r : TokenReader) (t : Token) : TokenReader := { r with tokens := t :: r.tokens }

/-- Inserts a token behind the first `number` ones. -/
def emitAt (r : TokenReader) (number : Nat) (t : Token) : TokenReader :=
  { r with tokens := r.tokens.insertIdx (r.tokens.length - number) t }

/-- Sets whether a key may start here. -/
def allowKey (r : TokenReader) (allowed : Bool) : TokenReader :=
  { r with keyAllowed := allowed }

/-- Goes on at another place. -/
def goTo (r : TokenReader) (c : Cursor) : TokenReader := { r with cursor := c }

/-! ## §2 Indentation -/

/-- Opens a block collection if its column is right of the one around it. -/
def openBlock (r : TokenReader) (column : Nat) (t : Token) (number : Nat) : TokenReader :=
  if r.flow = 0 ∧ r.indent < column then
    { r.emitAt number t with indent := column, outer := r.indent :: r.outer }
  else r

/-- Opens a block collection here. -/
def openHere (r : TokenReader) (t : Token) : TokenReader :=
  r.openBlock r.cursor.column t r.tokens.length

/-- Closes the block collections that are right of a column. -/
def closeColumns (column : Int) (tokens : List Token) :
    Int → List Int → List Token × Int × List Int
  | indent, [] => (tokens, indent, [])
  | indent, next :: outer =>
    if column < indent then closeColumns column (.blockEnd :: tokens) next outer
    else (tokens, indent, next :: outer)

/-- Closes the block collections that are right of a column. -/
def closeBlocks (r : TokenReader) (column : Int) : TokenReader :=
  if r.flow = 0 then
    let (tokens, indent, outer) := closeColumns column r.tokens r.indent r.outer
    { r with tokens := tokens, indent := indent, outer := outer }
  else r

/-! ## §3 Possible keys -/

/-- The greatest number of characters in a key, with the blank behind it. -/
def maxKeyLength : Nat := 1024

/-- Whether a place can still turn out to be the start of a key. -/
def isFresh (k : PossibleKey) (c : Cursor) : Bool :=
  k.start.line == c.line && c.index ≤ k.start.index + maxKeyLength

/-- Forgets the places that can no longer start a key; one that has to is an error. -/
def dropStaleKeys? (r : TokenReader) : Option TokenReader := do
  let keys ← r.keys.mapM fun key =>
    match key with
    | none => some none
    | some k =>
      if isFresh k r.cursor then some (some k) else if k.required then none else some none
  return { r with keys := keys }

/-- Sets where a key of the innermost collection may have started. -/
def setKey (r : TokenReader) (key : Option PossibleKey) : TokenReader :=
  match r.keys with
  | [] => r
  | _ :: keys => { r with keys := key :: keys }

/-- Where a key of the innermost collection may have started. -/
def key? (r : TokenReader) : Option PossibleKey := r.keys.head?.join

/-- Forgets where a key may have started; if one had to, that is an error. -/
def forgetKey? (r : TokenReader) : Option TokenReader :=
  if r.key?.any (·.required) then none else some (r.setKey none)

/-- Remembers that a key may start here. -/
def rememberKey? (r : TokenReader) : Option TokenReader :=
  if r.keyAllowed then do
    -- At the column of a block mapping nothing but a key can stand.
    let required := r.flow == 0 && r.indent == r.cursor.column
    let r ← r.forgetKey?
    return r.setKey (some ⟨r.tokens.length, r.cursor, required⟩)
  else some r

/-! ## §4 Tokens -/

/-- Passes over blank, comments and line ends.  A byte order mark may start a line, and in a
block a tab is blank only behind other characters. -/
def skipGapFrom (fuel : Nat) (r : TokenReader) : TokenReader :=
  match fuel with
  | 0 => r
  | fuel + 1 =>
    let c := r.cursor
    -- A byte order mark may start a line.
    let c := if c.column = 0 ∧ c.looksAt (· == byteOrderMark) then c.skip 1 else c
    -- In a block a tab is blank only behind other characters.
    let tabs := r.flow != 0 || !r.keyAllowed
    let c := (c.skipWhile fun x => x == ' ' || (tabs && x == '\t')).skipComment
    match c.readBreak? with
    -- On a new line of a block a key may start.
    | some (_, c) => skipGapFrom fuel { r with cursor := c, keyAllowed := r.keyAllowed || r.flow == 0 }
    | none => r.goTo c

/-- Passes over blank, comments and line ends. -/
def skipGap (r : TokenReader) : TokenReader := skipGapFrom (r.cursor.rest.length + 1) r

/-- Reads a token of some characters. -/
def take (r : TokenReader) (n : Nat) (t : Token) : TokenReader :=
  (r.goTo (r.cursor.skip n)).emit t

/-- Ends all block collections, as in front of a directive or a document mark. -/
def endBlocks? (r : TokenReader) : Option TokenReader := do
  return (← (r.closeBlocks (-1)).forgetKey?).allowKey false

/-- The end of the stream. -/
def finish? (r : TokenReader) : Option TokenReader := do
  return (← r.endBlocks?).emit .streamEnd

/-- Reads a directive. -/
def readDirective? (r : TokenReader) : Option TokenReader := do
  let r ← r.endBlocks?
  let (t, c) ← Tag.readDirective? (r.cursor.skip 1)
  return (r.goTo c).emit t

/-- Reads the start of a flow collection. -/
def openFlow? (r : TokenReader) (t : Token) : Option TokenReader := do
  let r ← r.rememberKey?
  return { (r.allowKey true).take 1 t with flow := r.flow + 1, keys := none :: r.keys }

/-- Reads the end of a flow collection. -/
def closeFlow? (r : TokenReader) (t : Token) : Option TokenReader := do
  let r ← r.forgetKey?
  -- A mark that closes nothing is left for the reader of the tokens to refuse.
  let r := if r.flow = 0 then r else { r with flow := r.flow - 1, keys := r.keys.drop 1 }
  return (r.allowKey false).take 1 t

/-- Reads a separator of a flow collection. -/
def readFlowEntry? (r : TokenReader) : Option TokenReader := do
  return ((← r.forgetKey?).allowKey true).take 1 .flowEntry

/-- Reads the start of an item of a block sequence. -/
def readBlockEntry? (r : TokenReader) : Option TokenReader := do
  if r.flow = 0 ∧ !r.keyAllowed then none
  else
    let r ← (r.openHere .blockSequenceStart).forgetKey?
    return (r.allowKey true).take 1 .blockEntry

/-- Reads the mark of a key. -/
def readKey? (r : TokenReader) : Option TokenReader := do
  if r.flow = 0 ∧ !r.keyAllowed then none
  else
    let r ← (r.openHere .blockMappingStart).forgetKey?
    return (r.allowKey (r.flow == 0)).take 1 .key

/-- Reads the mark of a value.  If a key may have started before, it did. -/
def readValue? (r : TokenReader) : Option TokenReader :=
  match r.key? with
  | some k =>
    -- The marks go in front of the tokens that have been read since.
    let r := r.emitAt k.number .key
    let r := r.openBlock k.start.column .blockMappingStart k.number
    -- A value on the line of its key starts no further key.
    some (((r.setKey none).allowKey false).take 1 .value)
  | none =>
    -- The key has a mark of its own, or it is not written at all.
    if r.flow = 0 ∧ !r.keyAllowed then none
    else some (((r.openHere .blockMappingStart).allowKey (r.flow == 0)).take 1 .value)

/-- Reads the name of an anchor or an alias behind its mark. -/
def readName? (r : TokenReader) (t : Text → Token) : Option TokenReader := do
  let r ← r.rememberKey?
  let (name, c) ← Tag.readName? (r.cursor.skip 1)
  return ((r.allowKey false).goTo c).emit (t name)

/-- Reads a tag. -/
def readTag? (r : TokenReader) : Option TokenReader := do
  let r ← r.rememberKey?
  let (t, c) ← Tag.read? (r.flow != 0) (r.cursor.skip 1)
  return ((r.allowKey false).goTo c).emit t

/-- Reads a block scalar. -/
def readBlock? (r : TokenReader) (folded : Bool) : Option TokenReader := do
  let r ← r.forgetKey?
  let (text, c) ← Scalar.readBlock? folded r.indent (r.cursor.skip 1)
  let style := if folded then ScalarStyle.folded else .literal
  return ((r.allowKey true).goTo c).emit (.scalar style text)

/-- Reads a scalar in quotes. -/
def readQuoted? (r : TokenReader) (single : Bool) : Option TokenReader := do
  let r ← r.rememberKey?
  let (text, c) ← Scalar.readQuoted? single (r.cursor.skip 1)
  let style := if single then ScalarStyle.singleQuoted else .doubleQuoted
  return ((r.allowKey false).goTo c).emit (.scalar style text)

/-- Reads a plain scalar. -/
def readPlain? (r : TokenReader) : Option TokenReader := do
  let r ← r.rememberKey?
  let plain ← Scalar.readPlain? (r.flow != 0) (r.indent + 1).toNat r.cursor
  return ((r.allowKey plain.broken).goTo plain.next).emit (.scalar .plain plain.text)

/-! ## §5 Streams -/

/-- Whether a plain scalar starts with a character in front of a given text. -/
def startsPlain (flow : Bool) (x : Char) (rest : Text) : Bool :=
  if x == '-' then !rest.head?.any isSpace
  else if x == '?' || x == ':' then !flow && startsInk rest
  else !isSpace x && !isBreak x && !isIndicator x

/-- Reads a token in front of which everything has been passed over. -/
def readToken? (r : TokenReader) (x : Char) (rest : Text) : Option TokenReader :=
  let column := r.cursor.column
  let inBlock := r.flow == 0
  let beforeGap := !startsInk rest
  if column == 0 && x == '%' then r.readDirective?
  else if r.cursor.atMark '-' then r.endBlocks?.map (·.take 3 .documentStart)
  else if r.cursor.atMark '.' then r.endBlocks?.map (·.take 3 .documentEnd)
  else
    match x with
    | '[' => r.openFlow? .flowSequenceStart
    | '\x7b' => r.openFlow? .flowMappingStart
    | ']' => r.closeFlow? .flowSequenceEnd
    | '\x7d' => r.closeFlow? .flowMappingEnd
    | ',' => r.readFlowEntry?
    | '*' => r.readName? .aliasOf
    | '&' => r.readName? .anchor
    | '!' => r.readTag?
    | '\'' => r.readQuoted? true
    | '"' => r.readQuoted? false
    | _ =>
      -- These three are marks only in front of a gap, or anywhere in a flow collection.
      if x == '-' && beforeGap then r.readBlockEntry?
      else if x == '?' && (!inBlock || beforeGap) then r.readKey?
      else if x == ':' && (!inBlock || beforeGap) then r.readValue?
      else if x == '|' && inBlock then r.readBlock? false
      else if x == '>' && inBlock then r.readBlock? true
      else if startsPlain (!inBlock) x rest then r.readPlain?
      else none

/-- What the next token leads to. -/
inductive Progress
  | more (r : TokenReader)
  | done (r : TokenReader)

/-- Reads the next token. -/
def step? (r : TokenReader) : Option Progress := do
  let r ← r.skipGap.dropStaleKeys?
  -- What is left of an open block ends it.
  let r := r.closeBlocks r.cursor.column
  match r.cursor.rest with
  | [] => return .done (← r.finish?)
  | x :: rest => return .more (← r.readToken? x rest)

/-- The tokens that are certain: a place where a key may have started is not. -/
def certain (r : TokenReader) : List Token :=
  let pending := r.keys.filterMap fun key => key.map (·.number)
  r.tokens.reverse.take (pending.foldl min r.tokens.length)

/-- Reads all tokens.  Every token but the last takes at least one character. -/
def readAll (r : TokenReader) : List Token :=
  match r.step? with
  | none => r.certain
  | some (.done r) => r.tokens.reverse
  | some (.more next) =>
    -- Every token takes a character; the test only shows that reading ends.
    if next.cursor.rest.length < r.cursor.rest.length then readAll next else r.certain
termination_by r.cursor.rest.length

end TokenReader

/-- The tokens of a text, up to the end of the stream or to the first mistake.  A byte order
mark may stand at the start, and characters that are not allowed make the whole text
unreadable. -/
def tokens (t : Text) : List Token :=
  let t := match t with
    | c :: rest => if c = byteOrderMark then rest else c :: rest
    | [] => []
  if t.all isAllowed then (TokenReader.start t).readAll else []

end Yaml

end CommentSwitch
