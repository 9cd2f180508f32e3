import CommentSwitch.Text.Integer
import CommentSwitch.Yaml.Gap

/-!
# Scalars in a stream

Reads the scalars of a stream: in single or double quotes, plain, and in blocks.

- `Scalar.readQuoted?`, `Scalar.readPlain?`, `Scalar.readBlock?`
-/

namespace CommentSwitch

namespace Yaml

namespace Scalar

/-! ## §1 Quotes -/

/-- The escapes of a single character. -/
def escapedChar? : Char → Option Char
  | '0' => some '\x00'
  | 'a' => some '\x07'
  | 'b' => some '\x08'
  | 't' | '\t' => some '\t'
  | 'n' => some '\n'
  | 'v' => some '\x0b'
  | 'f' => some '\x0c'
  | 'r' => some '\r'
  | 'e' => some '\x1b'
  | ' ' => some ' '
  | '"' => some '"'
  | '/' => some '/'
  | '\\' => some '\\'
  | 'N' => some '\u0085'
  | '_' => some '\u00a0'
  | 'L' => some '\u2028'
  | 'P' => some '\u2029'
  | _ => none

/-- The number of hexadecimal digits behind a letter. -/
def hexLength? : Char → Option Nat
  | 'x' => some 2
  | 'u' => some 4
  | 'U' => some 8
  | _ => none

/-- Reads an escape behind its backslash. -/
def readEscape? (c : Cursor) : Option (Char × Cursor) := do
  let letter ← c.head?
  match hexLength? letter with
  | none => return (← escapedChar? letter, c.skip 1)
  | some n =>
    let digits := (c.rest.drop 1).take n
    let code ← Text.digitsValue? 16 digits
    if h : digits.length = n ∧ code.isValidChar then
      return (Char.ofNatAux code h.2, c.skip (n + 1))
    else none

/-- What a piece of a scalar in quotes is. -/
inductive Piece
  | char (x : Char) (next : Cursor)
  /-- A line end that does not count. -/
  | join (next : Cursor)
  /-- The closing quote. -/
  | stop (next : Cursor)

/-- Reads a piece within single quotes, where a quote is written twice. -/
def readSinglePiece? (c : Cursor) : Option Piece :=
  match c.rest with
  | [] => none
  | '\'' :: '\'' :: _ => some (.char '\'' (c.skip 2))
  | '\'' :: _ => some (.stop (c.skip 1))
  | x :: _ => some (.char x (c.skip 1))

/-- Reads a piece within double quotes. -/
def readDoublePiece? (c : Cursor) : Option Piece :=
  match c.rest with
  | [] => none
  | '"' :: _ => some (.stop (c.skip 1))
  | '\\' :: _ =>
    match (c.skip 1).readBreak? with
    | some (_, next) => some (.join next)
    | none => (readEscape? (c.skip 1)).map fun (x, next) => .char x next
  | x :: _ => some (.char x (c.skip 1))

/-- Reads pieces and gaps up to the closing quote, at most `fuel` of them; `text` is what
has been read, latest first.  No document mark may stand at the start of a line. -/
def readPieces? (piece? : Cursor → Option Piece) :
    (fuel : Nat) → (text : Text) → Cursor → Option (Text × Cursor)
  | 0, _, _ => none
  | fuel + 1, text, c =>
    -- A document mark ends the document even within quotes.
    if c.atDocumentMark then none
    else if !c.rest.isEmpty && c.atGap then do
      let (gap, c) ← Gap.none.read? 0 c
      readPieces? piece? fuel (gap.text.reverse ++ text) c
    else do
      match ← piece? c with
      | .char x c => readPieces? piece? fuel (x :: text) c
      | .join c =>
        -- The line end is gone, and so is the blank at the start of the next line.
        let (gap, c) ← Gap.escaped.read? 0 c
        readPieces? piece? fuel (gap.text.reverse ++ text) c
      | .stop c => return (text.reverse, c)

/-- Reads a scalar in quotes, behind the opening one. -/
def readQuoted? (single : Bool) (c : Cursor) : Option (Text × Cursor) :=
  readPieces? (if single then readSinglePiece? else readDoublePiece?) (c.rest.length + 1) [] c

/-! ## §2 Plain scalars -/

/-- The characters up to a gap or to what ends a plain scalar: a colon in front of a gap,
and in flow collections an indicator.  There a colon in front of an indicator is an
error. -/
def plainRun? (flow : Bool) : Text → Option Text
  | [] => some []
  | x :: rest =>
    if isSpace x || isBreak x then some []
    else if flow && x == ':' && rest.head?.any (isOneOf ",?[]\x7b\x7d") then none
    else if (x == ':' && !startsInk rest) || (flow && isFlowIndicator x) then some []
    else (plainRun? flow rest).map (x :: ·)

/-- A plain scalar that has been read. -/
structure Plain where
  text : Text
  /-- Whether a line has ended behind it. -/
  broken : Bool
  next : Cursor

/-- Reads runs and gaps, at most `fuel` of them; `text` is what has been read, latest
first, and `gap` what follows it. -/
def readRuns? (flow : Bool) (indent : Nat) :
    (fuel : Nat) → (text : Text) → (gap : Gap) → Cursor → Option Plain
  | 0, _, _, _ => none
  | fuel + 1, text, gap, c =>
    -- A comment ends the scalar; the gap in front of it is not part of it.
    if c.atDocumentMark || c.looksAt (· == '#') then some ⟨text.reverse, gap.broken, c⟩
    else do
      let run ← plainRun? flow c.rest
      if run.isEmpty then return ⟨text.reverse, gap.broken, c⟩
      else
        let text := run.reverse ++ gap.text.reverse ++ text
        let c := c.skip run.length
        if c.rest.isEmpty || !c.atGap then return ⟨text.reverse, false, c⟩
        else
          let (gap, c) ← Gap.none.read? indent c
          -- A line that is indented less belongs to what is around the scalar.
          if !flow && c.column < indent then return ⟨text.reverse, gap.broken, c⟩
          else readRuns? flow indent fuel text gap c

/-- Reads a plain scalar whose further lines are indented by `indent` or more. -/
def readPlain? (flow : Bool) (indent : Nat) (c : Cursor) : Option Plain :=
  readRuns? flow indent (c.rest.length + 1) [] .none c

/-! ## §3 Blocks -/

/-- What becomes of the line ends at the end of a block. -/
inductive Chomping
  | strip | clip | keep
  deriving DecidableEq, Repr

/-- Reads how the end of a block is treated. -/
def readChomping (c : Cursor) : Option (Chomping × Cursor) :=
  match c.head? with
  | some '-' => some (.strip, c.skip 1)
  | some '+' => some (.keep, c.skip 1)
  | _ => none

/-- Reads an indentation of one to nine columns; `none` within for none at all. -/
def readIncrement? (c : Cursor) : Option (Option Nat × Cursor) :=
  match c.head? with
  | some x =>
    if x = '0' then none
    else if x.isDigit then some (some (Text.digitValue x), c.skip 1)
    else some (none, c)
  | none => some (none, c)

/-- Reads the rest of the first line of a block: how its end is treated and by how much it
is indented, in either order, and perhaps a comment. -/
def readHeader? (c : Cursor) : Option (Chomping × Option Nat × Cursor) := do
  let (chomping, increment, c) ←
    match readChomping c with
    | some (chomping, c) => do
      let (increment, c) ← readIncrement? c
      pure (chomping, increment, c)
    | none => do
      let (increment, c) ← readIncrement? c
      -- The two hints may come in either order.
      match increment, readChomping c with
      | some _, some (chomping, c) => pure (chomping, increment, c)
      | _, _ => pure (Chomping.clip, increment, c)
  let c := (c.skipWhile isSpace).skipComment
  if c.atLineEnd then return (chomping, increment, c.skipBreak) else none

/-- Passes over spaces, up to a column if one is given. -/
def skipIndent (indent : Option Nat) (c : Cursor) : Cursor :=
  let spaces := c.rest.takeWhile (· == ' ')
  c.skip (match indent with
    | none => spaces.length
    | some n => min spaces.length (n - c.column))

/-- Reads empty lines, at most `fuel` of them, and the indentation of the line behind them.
The widest indentation so far is kept, and so are the line ends, latest first.  A tab in
the indentation is refused. -/
def readEmptyLines? (indent : Option Nat) :
    (fuel widest : Nat) → (breaks : Text) → Cursor → Option (Nat × Text × Cursor)
  | 0, _, _, _ => none
  | fuel + 1, widest, breaks, c =>
    let c := skipIndent indent c
    let widest := max widest c.column
    if indent.all (c.column < ·) && c.looksAt (· == '\t') then none
    else
      match c.readBreak? with
      | some (x, c) => readEmptyLines? indent fuel widest (x :: breaks) c
      | none => some (widest, breaks, c)

/-- The content of a block that has been read so far. -/
structure Content where
  /-- What has been read, latest first. -/
  text : Text
  /-- The line end behind it. -/
  lineEnd : Option Char
  /-- The line ends of the empty lines behind that one, latest first. -/
  empty : Text
  /-- Whether the latest line starts with blank. -/
  blankStart : Bool

/-- What a line end between two lines becomes: in a folded block a space or nothing,
unless one of the lines starts with blank. -/
def joint (folded : Bool) (content : Content) (blankStart : Bool) : Text :=
  if folded && content.lineEnd == some '\n' && !content.blankStart && !blankStart then
    -- Empty lines take the place of the line end in front of them.
    if content.empty.isEmpty then [' '] else []
  else content.lineEnd.toList

/-- Reads the lines of a block that are indented by `indent`, at most `fuel` of them. -/
def readLines? (folded : Bool) (indent : Nat) :
    (fuel : Nat) → Content → Cursor → Option (Content × Cursor)
  | 0, content, c => some (content, c)
  | fuel + 1, content, c =>
    if c.column = indent ∧ !c.rest.isEmpty then do
      let blankStart := c.looksAt isSpace
      let (line, c) := c.takeWhile fun x => !isBreak x
      let text := line.reverse ++ content.empty ++ (joint folded content blankStart).reverse
        ++ content.text
      let (lineEnd, c) := match c.readBreak? with
        | some (x, c) => (some x, c)
        | none => (none, c)
      let (_, empty, c) ← readEmptyLines? (some indent) (c.rest.length + 1) 0 [] c
      readLines? folded indent fuel ⟨text, lineEnd, empty, blankStart⟩ c
    else some (content, c)

/-- The text of a block. -/
def Content.chomped (content : Content) : Chomping → Text
  | .strip => content.text.reverse
  | .clip => content.text.reverse ++ content.lineEnd.toList
  | .keep => content.text.reverse ++ content.lineEnd.toList ++ content.empty.reverse

/-- Reads a block behind its indicator, where the collection around it is indented by
`outer`.  Unless the indentation is given, it is the widest one up to the first line that
is not empty, but deeper than the one of the collection. -/
def readBlock? (folded : Bool) (outer : Int) (c : Cursor) : Option (Text × Cursor) := do
  let (chomping, increment, c) ← readHeader? c
  -- A given indentation counts from the collection around the block.
  let given := increment.map fun n => (max outer 0).toNat + n
  let (widest, empty, c) ← readEmptyLines? given (c.rest.length + 1) 0 [] c
  let indent := given.getD (max widest (max (outer + 1) 1).toNat)
  let (content, c) ← readLines? folded indent (c.rest.length + 1) ⟨[], none, empty, false⟩ c
  return (content.chomped chomping, c)

end Scalar

end Yaml

end CommentSwitch
