import CommentSwitch.Yaml.Character

/-!
# Places in a stream

A cursor holds what is still to be read of a stream, and where that starts.  A carriage
return with a line feed counts as one line end.

- `Cursor.readBreak?`: reads a line end, which becomes a line feed
- `Cursor.atDocumentMark`: whether a line is a document mark
-/

namespace CommentSwitch

namespace Yaml

/-- A place in a stream, and what follows it. -/
structure Cursor where
  rest : Text
  /-- The number of characters before the place. -/
  index : Nat
  line : Nat
  column : Nat

namespace Cursor

/-- The start of a stream. -/
def start (t : Text) : Cursor := ⟨t, 0, 0, 0⟩

/-- The next character. -/
def head? (c : Cursor) : Option Char := c.rest.head?

/-- Whether the next character passes a test. -/
def looksAt (c : Cursor) (p : Char → Bool) : Bool := c.rest.head?.any p

/-- Whether nothing follows on the line but its end. -/
def atLineEnd (c : Cursor) : Bool := c.rest.head?.all isBreak

/-- Whether a space, a line end, or nothing follows. -/
def atGap (c : Cursor) : Bool := !startsInk c.rest

/-- Passes over characters of the line. -/
def skip (c : Cursor) (n : Nat) : Cursor :=
  ⟨c.rest.drop n, c.index + n, c.line, c.column + n⟩

/-- The characters that pass a test, and the place behind them. -/
def takeWhile (c : Cursor) (p : Char → Bool) : Text × Cursor :=
  let taken := c.rest.takeWhile p
  (taken, c.skip taken.length)

/-- Passes over the characters that pass a test. -/
def skipWhile (c : Cursor) (p : Char → Bool) : Cursor := (c.takeWhile p).2

/-- Passes over the rest of the line. -/
def skipLine (c : Cursor) : Cursor := c.skipWhile fun x => !isBreak x

/-- Passes over a comment. -/
def skipComment (c : Cursor) : Cursor := if c.looksAt (· == '#') then c.skipLine else c

/-- Reads a line end.  All line ends become line feeds, but for the separators of lines
and paragraphs. -/
def readBreak? (c : Cursor) : Option (Char × Cursor) :=
  match c.rest with
  | '\r' :: '\n' :: rest => some ('\n', ⟨rest, c.index + 2, c.line + 1, 0⟩)
  | x :: rest =>
    if isBreak x then
      -- The separators of lines and paragraphs are kept apart from the other line ends.
      let kept := if x = '\u2028' ∨ x = '\u2029' then x else '\n'
      some (kept, ⟨rest, c.index + 1, c.line + 1, 0⟩)
    else none
  | [] => none

/-- Passes over a line end, if there is one. -/
def skipBreak (c : Cursor) : Cursor :=
  match c.readBreak? with
  | some (_, c) => c
  | none => c

/-- Whether a line starts here with three equal characters and a gap. -/
def atMark (mark : Char) (c : Cursor) : Bool :=
  c.column == 0 &&
    match c.rest with
    | x :: y :: z :: rest => x == mark && y == mark && z == mark && !startsInk rest
    | _ => false

/-- Whether a line starts here with a document mark. -/
def atDocumentMark (c : Cursor) : Bool := c.atMark '-' || c.atMark '.'

end Cursor

end Yaml

end CommentSwitch
