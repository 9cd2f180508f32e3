import CommentSwitch.Text.Blank

/-!
# Flags of a pattern

Settings that can be switched on and off within a pattern, as in `(?i-s:a.b)`.  A
setting lasts to the end of its group.  In verbose mode blank and comments may stand
between the parts of a pattern.

- `Flags.read?`: the settings in front of a colon or a closing parenthesis
- `Flags.skipBlank`: passes over what is ignored in verbose mode
-/

namespace CommentSwitch

/-- The settings under which a part of a pattern is read. -/
structure Flags where
  ignoreCase : Bool
  /-- `^` and `$` stand for the ends of lines. -/
  multiLine : Bool
  /-- `.` stands for line ends too. -/
  dotAll : Bool
  /-- Repetitions are shortest first, and longest first with a question mark. -/
  swapGreed : Bool
  /-- Classes hold the characters of all scripts. -/
  unicode : Bool
  /-- A carriage return ends a line too. -/
  returns : Bool
  /-- Blank and comments are ignored. -/
  verbose : Bool
  deriving DecidableEq, Repr

namespace Flags

/-- The settings at the start of a pattern. -/
def standard : Flags where
  ignoreCase := false
  multiLine := false
  dotAll := false
  swapGreed := false
  unicode := true
  returns := false
  verbose := false

/-- The settings after the one that a letter names is switched; no other letter
names a setting. -/
def set? (f : Flags) (letter : Char) (on : Bool) : Option Flags :=
  match letter with
  | 'i' => some { f with ignoreCase := on }
  | 'm' => some { f with multiLine := on }
  | 's' => some { f with dotAll := on }
  | 'U' => some { f with swapGreed := on }
  | 'u' => some { f with unicode := on }
  | 'R' => some { f with returns := on }
  | 'x' => some { f with verbose := on }
  | _ => none

/-- Switches the settings that a list of letters names: on up to a minus sign, off
after it. -/
def switchAll? (f : Flags) (on : Bool) : Text → Option Flags
  | [] => some f
  | '-' :: letters => switchAll? f false letters
  | c :: letters => (f.set? c on).bind fun f => switchAll? f on letters

/-- Reads settings up to a colon or a closing parenthesis: their letters, what ends
them, and what follows.  No letter and no minus sign is repeated, and a letter
follows a minus sign. -/
def read? (f : Flags) (t : Text) : Option (Flags × Text × Char × Text) :=
  let letters := t.takeWhile fun c => c != ':' && c != ')'
  match t.drop letters.length with
  | [] => none
  | stop :: rest =>
    if letters.Nodup ∧ letters.getLast? ≠ some '-' then
      (f.switchAll? true letters).map fun f => (f, letters, stop, rest)
    else none

/-! ## §1 Verbose mode -/

/-- Drops blank and comments. -/
def dropComments : (inComment : Bool) → Text → Text
  | _, [] => []
  | true, c :: rest => dropComments (c != '\n') rest
  | false, c :: rest =>
    if Text.isBlank c then dropComments false rest
    else if c = '#' then dropComments true rest
    else c :: rest

/-- Passes over what is ignored in front of a part. -/
def skipBlank (f : Flags) (t : Text) : Text :=
  if f.verbose then dropComments false t else t

theorem length_dropComments_le (inComment : Bool) (t : Text) :
    (dropComments inComment t).length ≤ t.length := by
  induction t generalizing inComment with
  | nil => cases inComment <;> exact Nat.le_refl _
  | cons c rest ih =>
    cases inComment with
    | true => exact Nat.le_succ_of_le (ih _)
    | false =>
      rw [dropComments]
      split
      · exact Nat.le_succ_of_le (ih false)
      · split
        · exact Nat.le_succ_of_le (ih true)
        · exact Nat.le_refl _

theorem length_skipBlank_le (f : Flags) (t : Text) : (f.skipBlank t).length ≤ t.length := by
  rw [skipBlank]
  split
  · exact length_dropComments_le false t
  · exact Nat.le_refl _

/-- The next character that is not ignored, where a number sign opens a comment
once; if all that follows is ignored, the first character after all. -/
def peek? (f : Flags) (t : Text) : Option Char :=
  if f.verbose then
    let shown := match t.dropWhile Text.isBlank with
      | '#' :: rest => rest.dropWhile Text.isBlank
      | rest => rest
    match shown with
    | c :: _ => some c
    | [] => t.head?
  else t.head?

end Flags

end CommentSwitch
