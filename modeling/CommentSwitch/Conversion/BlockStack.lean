import CommentSwitch.Text.Basic

/-!
# Open blocks

While the lines of a file are read, the blocks that have been opened and not yet
closed form a stack, innermost first.  A line is active when the branch being
read is selected in every open block.

- `BlockStack.isActive_cons`: a line is active in a block that is selected within
  an active place
-/

namespace CommentSwitch

/-- A block that has not been closed yet. -/
structure OpenBlock where
  /-- Whether the branch being read is selected. -/
  selected : Bool
  /-- Whether an `else` has been read. -/
  elseSeen : Bool
  /-- Whether a condition of the block was true so far. -/
  everTrue : Bool
  /-- The indentation of the line that opened the branch being read. -/
  indent : Nat
  deriving DecidableEq, Repr

namespace OpenBlock

/-- A branch whose condition, the first of the block that may hold, has a value. -/
def opened (holds : Bool) (indent : Nat) : OpenBlock where
  selected := holds
  elseSeen := false
  everTrue := holds
  indent := indent

/-- A branch after one that was selected. -/
def skipped (b : OpenBlock) (indent : Nat) : OpenBlock :=
  { b with selected := false, indent := indent }

/-- The branch for the case that no condition was true. -/
def otherwise (b : OpenBlock) (indent : Nat) : OpenBlock where
  selected := !b.everTrue
  elseSeen := true
  everTrue := b.everTrue
  indent := indent

end OpenBlock

/-- The open blocks, innermost first. -/
abbrev BlockStack := List OpenBlock

namespace BlockStack

/-- Whether the branch being read is selected in every open block. -/
def isActive (stack : BlockStack) : Bool := stack.all (·.selected)

/-- The indentation of the innermost branch. -/
def indent : BlockStack → Nat
  | [] => 0
  | b :: _ => b.indent

@[simp] theorem isActive_nil : isActive [] = true := rfl

@[simp] theorem isActive_cons (b : OpenBlock) (stack : BlockStack) :
    isActive (b :: stack) = (b.selected && isActive stack) := rfl

theorem headD_map_indent (stack : BlockStack) :
    (stack.map (·.indent)).headD 0 = stack.indent := by
  cases stack <;> rfl

end BlockStack

end CommentSwitch
