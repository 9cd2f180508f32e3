import CommentSwitch.Remap.Table

/-!
# Remapping

Applies a remap table to lines.  The patterns are read first, in the order of the
table, so that a pattern that can not be read is found before any line is changed.
Every replacement sees the result of those before it, and every line is remapped on
its own.  What a pattern is, and how it replaces, is a parameter.

- `Remapper.ofTable`: the rules of a table, or the first pattern that is unusable
- `Remapper.remapLine`: the rules applied in turn
-/

namespace CommentSwitch

/-- Patterns of a kind `ρ` with their replacements, in the order in which they are
applied. -/
structure Remapper (ρ : Type) where
  rules : List (ρ × Text)

/-- The first pattern of a table that can not be read. -/
structure UnusablePattern where
  pattern : Text
  deriving DecidableEq, Repr

/-- The wording of an unusable pattern. -/
def UnusablePattern.text (u : UnusablePattern) : Text :=
  Text.ofString "Invalid remap pattern: " ++ u.pattern

namespace Remapper

variable {ρ : Type}

/-- The remapper without rules. -/
def empty : Remapper ρ := ⟨[]⟩

/-- Whether there are no rules. -/
def isEmpty (r : Remapper ρ) : Bool := r.rules.isEmpty

/-- The rules of some pairs, read in order. -/
def readRules (read? : Text → Option ρ) :
    List (Text × Text) → Except UnusablePattern (List (ρ × Text))
  | [] => .ok []
  | (pattern, replacement) :: rest =>
    match read? pattern with
    | none => .error ⟨pattern⟩
    | some p => do return (p, replacement) :: (← readRules read? rest)

/-- The remapper of a table. -/
def ofTable (read? : Text → Option ρ) (t : RemapTable) :
    Except UnusablePattern (Remapper ρ) := do
  return ⟨← readRules read? t.entries⟩

/-- Applies the rules to a line, one after the other. -/
def remapLine (replaceAll : ρ → Text → Text → Text) (r : Remapper ρ) (line : Text) : Text :=
  r.rules.foldl (fun line rule => replaceAll rule.1 rule.2 line) line

/-- Applies the rules to every line. -/
def remapLines (replaceAll : ρ → Text → Text → Text) (r : Remapper ρ) (lines : List Text) :
    List Text :=
  lines.map (r.remapLine replaceAll)

theorem length_remapLines (replaceAll : ρ → Text → Text → Text) (r : Remapper ρ)
    (lines : List Text) : (r.remapLines replaceAll lines).length = lines.length :=
  List.length_map _

end Remapper

end CommentSwitch
