import CommentSwitch.Pattern.Basic

/-!
# Matching programs

A pattern is searched for by a program: numbered instructions, each naming its
successors.  A program is built from the end, so that the entry of what follows is
known when an instruction is written; only the instruction that closes a loop is
filled in later.

- `Program.ofPattern`: the program of a pattern; the whole match is capture `0`
-/

namespace CommentSwitch

/-- An instruction of a matching program. -/
inductive Instruction
  /-- Reads one character of a set. -/
  | char (s : CharSet) (next : Nat)
  /-- Goes on at `first`, and at `second` if that fails. -/
  | split (first second : Nat)
  /-- Notes the place under a number. -/
  | save (slot next : Nat)
  /-- Goes on where a condition holds. -/
  | look (l : Look) (next : Nat)
  /-- Gives up. -/
  | fail
  /-- Reports a match. -/
  | accept

/-- The instructions of a program and the number of the first one. -/
structure Program where
  code : Array Instruction
  entry : Nat

namespace Program

/-- Adds an instruction and enters there. -/
def emit (code : Array Instruction) (i : Instruction) : Program :=
  let place := code.size
  ⟨code.push i, place⟩

/-- A choice between a body and leaving it, the body first if `greedy`. -/
def choice (greedy : Bool) (body leave : Nat) : Instruction :=
  if greedy then .split body leave else .split leave body

/-- Puts a body in front of a program `n` times. -/
def inFront (body : Program → Program) : Nat → Program → Program
  | 0, p => p
  | n + 1, p => inFront body n (body p)

/-- At least one pass through a body, then out to `p`; entered at the body. -/
def loop (greedy : Bool) (body : Program → Program) : Program → Program
  | ⟨code, leave⟩ =>
    -- The place of the closing choice is kept free until the body is there.
    let again := code.size
    let ⟨code, entry⟩ := body ⟨code.push .fail, again⟩
    ⟨code.setIfInBounds again (choice greedy entry leave), entry⟩

/-- A choice in front of a program that ends at `leave`. -/
def optional (greedy : Bool) (leave : Nat) : Program → Program
  | ⟨code, entry⟩ => emit code (choice greedy entry leave)

/-- A repetition of a body in front of a program. -/
def repetition (bodyMaybeEmpty : Bool) (least : Nat) (most : Option Nat) (greedy : Bool)
    (body : Program → Program) : Program → Program
  | ⟨code, leave⟩ =>
    let again := code.size
    match most, least with
    | none, 0 =>
      let ⟨code, entry⟩ := loop greedy body ⟨code, leave⟩
      -- A body that may be empty is entered through a choice of its own, so that an empty
      -- pass counts as one.
      if bodyMaybeEmpty then optional greedy leave ⟨code, entry⟩
      else ⟨code, again⟩
    | none, n + 1 => inFront body n (loop greedy body ⟨code, leave⟩)
    | some most, least =>
      inFront body least
        (inFront (fun p => optional greedy leave (body p)) (most - least) ⟨code, leave⟩)

/-- Puts the instructions of a pattern in front of a program. -/
def prepend : Pattern → Program → Program
  | .empty, p => p
  | .char s, ⟨code, next⟩ => emit code (.char s next)
  | .look l, ⟨code, next⟩ => emit code (.look l next)
  | .seq a b, p => prepend a (prepend b p)
  | .alt a b, ⟨code, next⟩ =>
    -- The later part is written first, since its entry has to be known.
    let ⟨code, second⟩ := prepend b ⟨code, next⟩
    let ⟨code, first⟩ := prepend a ⟨code, next⟩
    emit code (.split first second)
  | .rep a least most greedy, p => repetition a.maybeEmpty least most greedy (prepend a) p
  | .capture index a, ⟨code, next⟩ =>
    let ⟨code, entry⟩ := prepend a (emit code (.save (2 * index + 1) next))
    emit code (.save (2 * index) entry)

/-- The program of a pattern. -/
def ofPattern (p : Pattern) : Program := prepend (.capture 0 p) (emit #[] .accept)

end Program

end CommentSwitch
