import CommentSwitch.Pattern.Program

/-!
# Searching a text

A program is run by following its choices in order and returning to the latest one
that is still open.  What comes after an instruction depends only on the
instruction and the place in the text, so a pair that has failed once is never
tried again: the work is bounded by the number of pairs.

- `Program.find?`: the leftmost match at or after a place
- `Program.findAll`: all matches of a text, from the left and without overlap
-/

namespace CommentSwitch

/-! ## §1 Conditions -/

/-- The places noted so far, latest first. -/
abbrev Slots := List (Nat × Nat)

private def charAt (text : Array Char) (i : Nat) (p : Char → Bool) : Bool :=
  match text[i]? with
  | some c => p c
  | none => false

private def charBefore (text : Array Char) (i : Nat) (p : Char → Bool) : Bool :=
  match i with
  | 0 => false
  | i + 1 => charAt text i p

/-- Whether a condition holds at a place of a text. -/
def Look.holds (l : Look) (text : Array Char) (i : Nat) : Bool :=
  let isWord (ascii : Bool) : Char → Bool :=
    if ascii then CharSet.asciiWord.mem else Text.isWordChar
  let before (ascii : Bool) := charBefore text i (isWord ascii)
  let after (ascii : Bool) := charAt text i (isWord ascii)
  match l with
  | textStart => i == 0
  | textEnd => i == text.size
  | lineStart => i == 0 || charBefore text i (· == '\n')
  | lineEnd => i == text.size || charAt text i (· == '\n')
  | returnLineStart =>
    i == 0 || charBefore text i (· == '\n')
      || (charBefore text i (· == '\r') && !charAt text i (· == '\n'))
  | returnLineEnd =>
    i == text.size || charAt text i (· == '\r')
      || (charAt text i (· == '\n') && !charBefore text i (· == '\r'))
  | wordBoundary a => before a != after a
  | notWordBoundary a => before a == after a
  | wordStart a => !before a && after a
  | wordEnd a => before a && !after a
  | wordStartHalf a => !before a
  | wordEndHalf a => !after a

/-! ## §2 Running a program -/

/-- An open choice: where to go on in the program and in the text, and the places
noted on the way. -/
structure Thread where
  instruction : Nat
  place : Nat
  slots : Slots

/-- What the threads that an instruction leads to are; `none` for a match. -/
def Thread.next (text : Array Char) (t : Thread) : Instruction → Option (List Thread)
  | .char s next =>
    match text[t.place]? with
    | some c => some (if s.mem c then [⟨next, t.place + 1, t.slots⟩] else [])
    | none => some []
  | .split first second =>
    some [⟨first, t.place, t.slots⟩, ⟨second, t.place, t.slots⟩]
  | .save slot next => some [⟨next, t.place, (slot, t.place) :: t.slots⟩]
  | .look l next => some (if l.holds text t.place then [⟨next, t.place, t.slots⟩] else [])
  | .fail => some []
  | .accept => none

namespace Program

/-- Follows the threads of a stack in order, passing over pairs of an instruction
and a place that were tried before. -/
def follow (code : Array Instruction) (text : Array Char) :
    Nat → Array Bool → List Thread → Option Slots × Array Bool
  | 0, tried, _ => (none, tried)
  | _ + 1, tried, [] => (none, tried)
  | fuel + 1, tried, t :: threads =>
    let key := t.instruction * (text.size + 1) + t.place
    -- A pair that was tried before leads to no match; it would have been found.
    if tried.getD key true then follow code text fuel tried threads
    else
      let tried := tried.setIfInBounds key true
      match code[t.instruction]? with
      | none => follow code text fuel tried threads
      | some i =>
        match t.next text i with
        | none => (some t.slots, tried)
        | some more => follow code text fuel tried (more ++ threads)

/-- The first match that starts at one of the places from `start` on, of which there
are `count`. -/
def findFrom (p : Program) (text : Array Char) :
    (count start : Nat) → Array Bool → Option Slots
  | 0, _, _ => none
  | count + 1, start, tried =>
    let fuel := 2 * p.code.size * (text.size + 1) + 2
    match follow p.code text fuel tried [⟨p.entry, start, []⟩] with
    | (some slots, _) => some slots
    -- What failed for an earlier start fails for this one too.
    | (none, tried) => findFrom p text count (start + 1) tried

/-- The leftmost match that starts at or after a place. -/
def find? (p : Program) (text : Array Char) (start : Nat) : Option Slots :=
  findFrom p text (text.size + 1 - start) start
    (Array.replicate (p.code.size * (text.size + 1)) false)

end Program

/-! ## §3 All matches -/

/-- The place noted under a number. -/
def Slots.place? (slots : Slots) (slot : Nat) : Option Nat := slots.lookup slot

/-- Where the match starts. -/
def Slots.start (slots : Slots) : Nat := (slots.place? 0).getD 0

/-- Where the match ends. -/
def Slots.stop (slots : Slots) : Nat := (slots.place? 1).getD 0

namespace Program

/-- The matches from a place on, at most `fuel` of them.  An empty match right after
the one before is passed over. -/
def matchesFrom (p : Program) (text : Array Char) :
    (fuel start : Nat) → (lastStop : Option Nat) → List Slots
  | 0, _, _ => []
  | fuel + 1, start, lastStop =>
    match p.find? text start with
    | none => []
    | some m =>
      if m.start = m.stop ∧ lastStop = some m.stop then
        -- The search goes on one character further to the right.
        if text.size ≤ start then []
        else matchesFrom p text fuel (start + 1) none
      else m :: matchesFrom p text fuel m.stop (some m.stop)

/-- All matches of a text, from the left and without overlap. -/
def findAll (p : Program) (text : Array Char) : List Slots :=
  matchesFrom p text (2 * text.size + 3) 0 none

end Program

end CommentSwitch
