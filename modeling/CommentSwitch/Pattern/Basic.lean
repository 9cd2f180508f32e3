import CommentSwitch.Pattern.CharSet

/-!
# Patterns

Regular expressions with captures.  Among the matches that start at one place the
preferred one counts: earlier alternatives before later ones, and repetitions
longest or shortest first, as they are written.

- `Pattern.maybeEmpty`, `Pattern.onlyEmpty`: whether the empty text is matched
- `Pattern.weight`: a bound on the size of a pattern when its repetitions are
  written out
-/

namespace CommentSwitch

/-- Conditions on a place in a text. -/
inductive Look
  | textStart
  | textEnd
  | lineStart
  | lineEnd
  /-- As `lineStart`, where a carriage return ends a line too. -/
  | returnLineStart
  | returnLineEnd
  /-- A place between a word character and another one. -/
  | wordBoundary (ascii : Bool)
  | notWordBoundary (ascii : Bool)
  | wordStart (ascii : Bool)
  | wordEnd (ascii : Bool)
  /-- No word character before the place. -/
  | wordStartHalf (ascii : Bool)
  /-- No word character after the place. -/
  | wordEndHalf (ascii : Bool)
  deriving Repr

/-- A regular expression. -/
inductive Pattern
  | empty
  /-- One character of a set. -/
  | char (s : CharSet)
  /-- The empty text, where a condition holds. -/
  | look (l : Look)
  | seq (p q : Pattern)
  /-- Either pattern, the first one preferred. -/
  | alt (p q : Pattern)
  /-- From `least` to `most` times a pattern, or without upper bound; many times
  preferred if `greedy`. -/
  | rep (p : Pattern) (least : Nat) (most : Option Nat) (greedy : Bool)
  /-- The text that a pattern matches is kept under a number. -/
  | capture (index : Nat) (p : Pattern)
  deriving Repr

namespace Pattern

/-- Whether the pattern may match the empty text. -/
def maybeEmpty : Pattern → Bool
  | empty => true
  | char _ => false
  | look _ => true
  | seq p q => p.maybeEmpty && q.maybeEmpty
  | alt p q => p.maybeEmpty || q.maybeEmpty
  | rep p least _ _ => least == 0 || p.maybeEmpty
  | capture _ p => p.maybeEmpty

/-- Whether the pattern can match nothing but the empty text. -/
def onlyEmpty : Pattern → Bool
  | empty => true
  | char _ => false
  | look _ => true
  | seq p q => p.onlyEmpty && q.onlyEmpty
  | alt p q => p.onlyEmpty && q.onlyEmpty
  | rep p _ most _ => most == some 0 || p.onlyEmpty
  | capture _ p => p.onlyEmpty

/-- The repetition, where one of the empty text is made at most once. -/
def repeated (p : Pattern) (least : Nat) (most : Option Nat) (greedy : Bool) : Pattern :=
  if p.onlyEmpty then rep p (min least 1) (some (min (most.getD 1) 1)) greedy
  else rep p least most greedy

/-- What tells the members of a set from other characters weighs, where the characters are
told apart by their octets; a class of all scripts needs many branches. -/
def branchWeight : CharSet → Nat
  | .empty => 0
  | .range _ last => if last < 0x80 then 2 else 50
  | .digit => 1110
  | .blank => 154
  | .word => 11759
  | .union a b | .inter a b | .diff a b | .symmDiff a b => branchWeight a + branchWeight b
  | .anyCase a | .anyAsciiCase a => branchWeight a + 2
  -- A complement reaches into all parts of the code space.
  | .compl a => branchWeight a + 232

/-- What a set weighs.  A single character is read octet by octet, without branches. -/
def charWeight : CharSet → Nat
  | .range first last =>
    if first = last then 8 * (Char.ofNat first).utf8Size
    else 16 + branchWeight (.range first last)
  | s => 16 + branchWeight s

/-- The size of the pattern when its repetitions are written out, in units of four octets; a
step weighs eight, and each way to go on one more. -/
def weight : Pattern → Nat
  | empty => 0
  | char s => charWeight s
  | look _ => 8
  | seq p q => p.weight + q.weight
  | alt p q => p.weight + q.weight + 9
  | rep p least most _ =>
    match most with
    | none => max least 1 * p.weight + 10
    -- Every pass that may be left out begins with a choice.
    | some n => least * p.weight + (n - least) * (p.weight + 10)
  | capture _ p => p.weight + 16

/-- The greatest weight a pattern may have: ten mebibytes. -/
def maxWeight : Nat := 2621440

end Pattern

end CommentSwitch
