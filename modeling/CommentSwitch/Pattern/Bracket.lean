import CommentSwitch.Pattern.Escape

/-!
# Sets in brackets

Sets of characters as they are written in brackets: characters, ranges, classes,
nested brackets, and the operations `&&`, `--` and `~~`, which bind equally strongly
and from the left.  Brackets that are open form a stack.

- `Bracket.read?`: reads a set behind its opening bracket
-/

namespace CommentSwitch

/-- A set as it is written, with the depth of its nesting. -/
structure SetPart where
  set : CharSet
  depth : Nat

/-- The operations between sets. -/
inductive SetOperation
  | inter | diff | symmDiff
  deriving DecidableEq, Repr

namespace SetOperation

/-- The set that an operation makes of two sets. -/
def apply : SetOperation → CharSet → CharSet → CharSet
  | inter => .inter
  | diff => .diff
  | symmDiff => .symmDiff

/-- The operation that a text starts with. -/
def read? : Text → Option (SetOperation × Text)
  | '&' :: '&' :: rest => some (inter, rest)
  | '-' :: '-' :: rest => some (diff, rest)
  | '~' :: '~' :: rest => some (symmDiff, rest)
  | _ => none

end SetOperation

namespace Bracket

/-! ## §1 Open brackets -/

/-- A bracket that is open. -/
structure Level where
  negated : Bool
  /-- What stands on the left of the latest operation. -/
  left : Option (SetOperation × SetPart)
  /-- What has been read since, latest first. -/
  items : List SetPart

/-- The greatest depth of some parts. -/
def maxDepth (parts : List SetPart) : Nat := (parts.map (·.depth)).foldl max 0

/-- The union of some parts. -/
def union : List SetPart → SetPart
  | [] => ⟨.empty, 0⟩
  | [part] => part
  | parts => ⟨.unionAll (parts.map (·.set)), maxDepth parts + 1⟩

/-- What has been read within a bracket. -/
def Level.content (f : Flags) (level : Level) : SetPart :=
  let right := union level.items
  match level.left with
  | none => right
  | some (op, left) =>
    ⟨op.apply (Literal.folded f left.set) (Literal.folded f right.set),
      max left.depth right.depth + 1⟩

/-- Adds what has been read to a bracket. -/
def Level.add (level : Level) (part : SetPart) : Level :=
  { level with items := part :: level.items }

/-- The set with all that differs in case if case is ignored, or its complement,
which is refused if it goes beyond ASCII where sets are confined to it. -/
def finish? (f : Flags) (negated : Bool) (s : CharSet) : Option CharSet :=
  let s := (Literal.folded f s).negateIf negated
  if !f.unicode && s.exceedsAscii then none else some s

/-- The set of a bracket that is closed. -/
def Level.close? (f : Flags) (level : Level) : Option SetPart := do
  let content := level.content f
  return ⟨← finish? f level.negated content.set, content.depth + 1⟩

/-! ## §2 Opening -/

/-- Minus signs at the start of a bracket stand for themselves. -/
def openingMinus (f : Flags) (level : Level) : (fuel : Nat) → Text → Level × Text
  | fuel + 1, '-' :: rest =>
    openingMinus f (level.add ⟨.single '-', 0⟩) fuel (f.skipBlank rest)
  | _, t => (level, t)

/-- Reads the start of a bracket: a circumflex negates the set, and a closing bracket
that comes first stands for itself. -/
def openLevel (f : Flags) (t : Text) : Level × Text :=
  let (negated, t) := match f.skipBlank t with
    | '^' :: rest => (true, f.skipBlank rest)
    | t => (false, t)
  match openingMinus f ⟨negated, none, []⟩ t.length t with
  | (⟨negated, left, []⟩, ']' :: rest) =>
    (⟨negated, left, [⟨.single ']', 0⟩]⟩, f.skipBlank rest)
  | opened => opened

/-- Reads a class by its name, as in `[:alpha:]` or `[:^alpha:]`, behind the opening
bracket; `none` if there is no such class. -/
def readClass? (f : Flags) : Text → Option (Option SetPart × Text)
  | ':' :: t =>
    let (negated, t) := match t with
      | '^' :: rest => (true, rest)
      | _ => (false, t)
    match t.dropWhile (· != ':') with
    | ':' :: ']' :: rest =>
      (CharSet.asciiClass? (t.takeWhile (· != ':'))).map fun s =>
        ((finish? f negated s).map fun s => ⟨s, 0⟩, rest)
    | _ => none
  | _ => none

/-! ## §3 Items -/

/-- Reads an item: a character, or what a backslash introduces. -/
def readItem? (f : Flags) : Text → Option (Escape × Text)
  | [] => none
  | '\\' :: rest => Escape.read? f rest
  | c :: rest => some (.literal (.plain c), rest)

/-- Whether a literal may stand in a bracket. -/
def isAllowed (f : Flags) (l : Literal) : Bool := f.unicode || l.char.toNat < 0x80

/-- The set that an item stands for; a condition stands for none. -/
def itemSet? (f : Flags) : Escape → Option CharSet
  | .literal l => if isAllowed f l then some (.single l.char) else none
  | .named k negated => k.set? f negated
  | .look _ => none

/-- The range between two items, which are characters in order. -/
def range? (f : Flags) : Escape → Escape → Option CharSet
  | .literal first, .literal last =>
    if isAllowed f first ∧ isAllowed f last ∧ first.char ≤ last.char then
      some (.range first.char.toNat last.char.toNat)
    else none
  | _, _ => none

/-- Reads an item or a range.  A minus sign in front of a closing bracket or of
another minus sign makes no range. -/
def readRange? (f : Flags) (t : Text) : Option (CharSet × Text) := do
  let (first, rest) ← readItem? f t
  match f.skipBlank rest with
  | [] => none
  | '-' :: rest =>
    -- The minus sign is left to be read as an item or an operation.
    if f.peek? rest = some ']' ∨ f.peek? rest = some '-' then
      return (← itemSet? f first, '-' :: rest)
    else
      let (last, rest) ← readItem? f (f.skipBlank rest)
      return (← range? f first last, rest)
  | rest => return (← itemSet? f first, rest)

/-! ## §4 Brackets -/

/-- What one part of the content of a bracket leads to. -/
inductive Progress
  | more (level : Level) (outer : List Level) (rest : Text)
  | done (part : SetPart) (rest : Text)

/-- Closes the innermost bracket. -/
def closeLevel? (f : Flags) (level : Level) (outer : List Level) (rest : Text) :
    Option Progress := do
  let part ← level.close? f
  match outer with
  | [] => return .done part rest
  | next :: outer => return .more (next.add part) outer rest

/-- Opens a bracket within another one, or reads a class by its name. -/
def openNested? (f : Flags) (level : Level) (outer : List Level) (rest : Text) :
    Option Progress :=
  match readClass? f rest with
  | some (part, rest) => part.map fun part => .more (level.add part) outer rest
  | none =>
    let (inner, rest) := openLevel f rest
    some (.more inner (level :: outer) rest)

/-- Reads one part of the content of a bracket. -/
def step? (f : Flags) (level : Level) (outer : List Level) (t : Text) : Option Progress :=
  match t with
  | '[' :: rest => openNested? f level outer rest
  | ']' :: rest => closeLevel? f level outer rest
  | _ =>
    match SetOperation.read? t with
    | some (op, rest) =>
      -- All that has been read becomes the left side of the operation.
      some (.more ⟨level.negated, some (op, level.content f), []⟩ outer rest)
    | none =>
      (readRange? f t).map fun (s, rest) => .more (level.add ⟨s, 0⟩) outer rest

/-- Reads the content of open brackets.  Every part takes at least one character. -/
def readContent? (f : Flags) (level : Level) (outer : List Level) (t : Text) :
    Option (SetPart × Text) :=
  match step? f level outer (f.skipBlank t) with
  | none => none
  | some (.done part rest) => some (part, rest)
  | some (.more level outer rest) =>
    if rest.length < t.length then readContent? f level outer rest else none
termination_by t.length

/-- Reads a set behind its opening bracket. -/
def read? (f : Flags) (t : Text) : Option (SetPart × Text) :=
  let (level, rest) := openLevel f t
  readContent? f level [] rest

end Bracket

end CommentSwitch
