import CommentSwitch.Text.Integer
import CommentSwitch.Yaml.Character

/-!
# Laying out text

The text that is being written, with what the next line or word depends on: the column,
whether blank has just been written, and whether the line holds nothing but indentation.

- `Layout.indent`: goes to a column, on a new line if something has been written
- `Layout.mark`: writes a mark, with a space in front of it where one is needed
-/

namespace CommentSwitch

namespace Yaml

/-- A text that is being written. -/
structure Layout where
  /-- What has been written, latest first. -/
  written : Text
  column : Nat
  /-- Whether a word may follow without a space. -/
  afterBlank : Bool
  /-- Whether the line holds nothing but indentation so far. -/
  inIndent : Bool

namespace Layout

/-- Nothing written yet. -/
def start : Layout := ⟨[], 0, true, true⟩

/-- What has been written. -/
def text (o : Layout) : Text := o.written.reverse

/-- Writes characters of a line. -/
def put (o : Layout) (t : Text) : Layout :=
  { o with written := t.reverse ++ o.written, column := o.column + t.length }

/-- Writes a line end. -/
def putBreak (o : Layout) (c : Char) : Layout :=
  { o with written := c :: o.written, column := 0 }

/-- Says whether the line holds nothing but indentation. -/
def within (o : Layout) (inIndent : Bool) : Layout := { o with inIndent := inIndent }

/-- Goes to a column, on a new line unless only indentation has been written up to it. -/
def indent (o : Layout) (n : Nat) : Layout :=
  let o :=
    -- A line that holds nothing but indentation is still good for this column.
    if !o.inIndent || n < o.column || (o.column == n && !o.afterBlank) then o.putBreak '\n'
    else o
  { o.put (List.replicate (n - o.column) ' ') with afterBlank := true, inIndent := true }

/-- Writes a space, unless blank has just been written. -/
def gap (o : Layout) : Layout := if o.afterBlank then o else o.put [' ']

/-- Writes a mark.  Behind some marks no space is needed, and some count as indentation. -/
def mark (o : Layout) (t : Text) (afterBlank asIndent : Bool) : Layout :=
  { o.put t with afterBlank := afterBlank, inIndent := o.inIndent && asIndent }

end Layout

end Yaml

end CommentSwitch
