import CommentSwitch.Yaml.Cursor

/-!
# Gaps in scalars

Blank and line ends within a scalar in quotes or a plain one.  A single line end becomes
a space; of several, the first is dropped.

- `Gap.text`: what a gap contributes to the scalar
- `Gap.read?`: reads a gap
-/

namespace CommentSwitch

namespace Yaml

/-- A gap within a scalar. -/
structure Gap where
  /-- The blank in front of the first line end, latest first. -/
  blank : Text
  /-- Whether a line has ended. -/
  broken : Bool
  /-- The first line end, if it counts. -/
  first : Option Char
  /-- The other line ends, latest first. -/
  more : Text

namespace Gap

/-- No gap at all. -/
def none : Gap := ⟨[], false, .none, []⟩

/-- The gap at an escaped line end, which does not count. -/
def escaped : Gap := ⟨[], true, .none, []⟩

/-- What a gap contributes to the scalar. -/
def text (g : Gap) : Text :=
  if g.broken then
    -- A single line end is folded to a space, and of several the first is dropped.
    if g.first = some '\n' then if g.more.isEmpty then [' '] else g.more.reverse
    else g.first.toList ++ g.more.reverse
  else g.blank.reverse

/-- Adds a line end. -/
def addBreak (g : Gap) (c : Char) : Gap :=
  if g.broken then { g with more := c :: g.more }
  -- Blank in front of a line end does not count.
  else { g with blank := [], broken := true, first := some c }

/-- Adds a space or a tab; behind a line end it does not count. -/
def addBlank (g : Gap) (c : Char) : Gap :=
  if g.broken then g else { g with blank := c :: g.blank }

/-- Reads blank and line ends, at most `fuel` of them.  A tab behind a line end is refused
left of the column `tabsFrom`. -/
def readFrom? (tabsFrom : Nat) : (fuel : Nat) → Gap → Cursor → Option (Gap × Cursor)
  | 0, g, c => some (g, c)
  | fuel + 1, g, c =>
    match c.readBreak? with
    | some (x, c) => readFrom? tabsFrom fuel (g.addBreak x) c
    | .none =>
      match c.head? with
      | .none => some (g, c)
      | some x =>
        if !isSpace x then some (g, c)
        else if g.broken && x == '\t' && c.column < tabsFrom then .none
        else readFrom? tabsFrom fuel (g.addBlank x) (c.skip 1)

/-- Reads blank and line ends. -/
def read? (tabsFrom : Nat) (g : Gap) (c : Cursor) : Option (Gap × Cursor) :=
  readFrom? tabsFrom (c.rest.length + 1) g c

end Gap

end Yaml

end CommentSwitch
