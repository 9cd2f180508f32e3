import CommentSwitch.Text.Basic

/-!
# Comparisons

The six comparison operators, and how a condition is cut at one.  Of all ways to
read a text as a left side, an operator and a right side, the one with the
longest left side counts, and among operators at the same place the first in the
order of `Comparison.all` that leaves a right side.

- `Comparison.split?`: the one reading of a text as a comparison
- `Comparison.holds`: the meaning of an operator on integers
-/

namespace CommentSwitch

/-- The comparison operators. -/
inductive Comparison
  | equal | notEqual | atMost | atLeast | less | greater
  deriving DecidableEq, Repr

namespace Comparison

/-- All operators, in the order in which they are tried at one place. -/
def all : List Comparison := [equal, notEqual, atMost, atLeast, less, greater]

/-- How an operator is written. -/
def token : Comparison → Text
  | equal => ['=', '=']
  | notEqual => ['!', '=']
  | atMost => ['<', '=']
  | atLeast => ['>', '=']
  | less => ['<']
  | greater => ['>']

/-- Whether the comparison of two integers holds. -/
def holds (op : Comparison) (m n : Int) : Bool :=
  match op with
  | equal => m == n
  | notEqual => m != n
  | atMost => m ≤ n
  | atLeast => n ≤ m
  | less => m < n
  | greater => n < m

/-! ## §1 Cutting a text at an operator -/

/-- The first operator the text starts with that leaves something to its right. -/
def leading? (t : Text) : Option (Comparison × Text) :=
  all.findSome? fun op =>
    match Text.afterToken? op.token t with
    | some (c :: rest) => some (op, c :: rest)
    | _ => none

/-- Cuts at the last place where an operator leaves something to its right; the
left side may be empty. -/
def lastCut? : Text → Option (Text × Comparison × Text)
  | [] => none
  | c :: rest =>
    -- A cut further to the right leaves a longer left side, so it is preferred.
    match lastCut? rest with
    | some (lhs, op, rhs) => some (c :: lhs, op, rhs)
    | none => (leading? (c :: rest)).map fun (op, rhs) => ([], op, rhs)

/-- Reads a text as a comparison: both sides are non-empty, and the text holds no
line feed. -/
def split? (t : Text) : Option (Text × Comparison × Text) :=
  if '\n' ∈ t then none
  else
    match t with
    -- The first character always belongs to the left side.
    | [] => none
    | c :: rest => (lastCut? rest).map fun (lhs, op, rhs) => (c :: lhs, op, rhs)

end Comparison

end CommentSwitch
