import CommentSwitch.Text.Basic

/-!
# Ranges of code points

Character properties are given as lists of ranges, and case mappings as ranges
that are shifted as a whole.

- `Text.inRanges`: membership of a character in a list of ranges
- `Text.shiftOf`, `Text.preimages`: a mapping by shifts, and its inverse images
-/

namespace CommentSwitch

namespace Text

/-- The code points from `first` to `last`, both included. -/
structure CodeRange where
  first : Nat
  last : Nat

/-- Whether the code point of a character lies in one of the ranges. -/
def inRanges (ranges : List CodeRange) (c : Char) : Bool :=
  ranges.any fun r => r.first ≤ c.toNat && c.toNat ≤ r.last

/-- Every `step`-th code point from `first` to `last` is moved by `offset`. -/
structure CaseShift where
  first : Nat
  last : Nat
  step : Nat
  offset : Int

/-- Whether a shift moves the code point `n`. -/
def CaseShift.moves (s : CaseShift) (n : Nat) : Bool :=
  s.first ≤ n && n ≤ s.last && (n - s.first) % s.step == 0

/-- The image of a character under the first shift that moves it. -/
def shiftOf (shifts : List CaseShift) (c : Char) : Char :=
  match shifts.find? (·.moves c.toNat) with
  | some s => Char.ofNat ((c.toNat : Int) + s.offset).toNat
  | none => c

/-- The characters that some shift moves to `c`. -/
def preimages (shifts : List CaseShift) (c : Char) : Text :=
  shifts.filterMap fun s =>
    let n := ((c.toNat : Int) - s.offset).toNat
    if s.moves n then some (Char.ofNat n) else none

end Text

end CommentSwitch
