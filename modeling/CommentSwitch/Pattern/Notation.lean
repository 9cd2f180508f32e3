import CommentSwitch.Pattern.Bracket

/-!
# The notation of patterns

Reads patterns as they are written.  Groups that are open form a stack; each holds
the alternatives that are finished and the parts of the one being read.  Look-around
and back-references are refused, as are patterns that nest too deeply or grow too
large when their repetitions are written out.

- `PatternReader.read?`: reads a pattern and the names of its groups
-/

namespace CommentSwitch

/-- The numbers of the groups that have names. -/
abbrev GroupNames := List (Text × Nat)

/-- A part of a pattern, with the depth of its nesting. -/
structure Part where
  pattern : Pattern
  depth : Nat
  /-- Whether it may be repeated; a mere setting may not. -/
  repeatable : Bool

/-- A group that is open. -/
structure OpenGroup where
  /-- The number under which its match is kept. -/
  capture : Option Nat
  /-- The settings that hold again after the group. -/
  outside : Flags
  /-- The finished alternatives, latest first. -/
  alternatives : List Part
  /-- The parts of the alternative being read, latest first. -/
  items : List Part

/-- The state of reading a pattern. -/
structure PatternReader where
  flags : Flags
  /-- The number of groups opened so far that keep their match. -/
  captures : Nat
  names : GroupNames
  /-- What has been read of the innermost group. -/
  group : OpenGroup
  /-- The groups around it, innermost first. -/
  outer : List OpenGroup

namespace PatternReader

/-! ## §1 Parts -/

/-- The greatest depth that is allowed. -/
def maxDepth : Nat := 250

private def deepest (parts : List Part) : Nat := (parts.map (·.depth)).foldl max 0

/-- Parts in sequence. -/
def sequence : List Part → Part
  | [] => ⟨.empty, 0, true⟩
  | [part] => part
  | parts => ⟨parts.foldr (fun part p => .seq part.pattern p) .empty, deepest parts + 1, true⟩

/-- Alternatives, of which there is one at least. -/
def alternatives (first : Part) : List Part → Part
  | [] => first
  | more =>
    ⟨more.foldl (fun p part => .alt p part.pattern) first.pattern,
      deepest (first :: more) + 1, true⟩

/-- All that has been read of a group. -/
def groupContent (g : OpenGroup) : Part :=
  match (sequence g.items.reverse :: g.alternatives).reverse with
  | [] => sequence []
  | first :: more => alternatives first more

/-- Adds a part to the innermost group. -/
def add (r : PatternReader) (p : Pattern) (depth : Nat) : PatternReader :=
  { r with group := { r.group with items := ⟨p, depth, true⟩ :: r.group.items } }

/-- What a step leaves: the state and the text that follows. -/
abbrev Step := Option (PatternReader × Text)

/-! ## §2 Groups -/

/-- Opens a group. -/
def openGroup (r : PatternReader) (capture : Option Nat) (inside : Flags) : PatternReader :=
  { r with
    flags := inside
    group := ⟨capture, r.flags, [], []⟩
    outer := r.group :: r.outer }

/-- Opens a group that keeps its match under the next number. -/
def openCapture (r : PatternReader) : PatternReader :=
  { r.openGroup (some (r.captures + 1)) r.flags with captures := r.captures + 1 }

/-- Whether a character may stand in the name of a group. -/
def isNameChar (first : Bool) (c : Char) : Bool :=
  if first then c == '_' || Text.isAlphabetic c
  else c == '_' || c == '.' || c == '[' || c == ']' || Text.isAlphanumeric c

/-- Whether a text is the name of a group. -/
def isName : Text → Bool
  | [] => false
  | c :: rest => isNameChar true c && rest.all (isNameChar false)

/-- Opens a group with a name, which no other group has. -/
def openNamed (r : PatternReader) (t : Text) : Step :=
  match Text.cutOnce? '>' t with
  | some (name, rest) =>
    -- Two groups never share a name.
    if isName name ∧ (r.names.lookup name).isNone then
      some ({ r.openCapture with names := (name, r.captures + 1) :: r.names }, rest)
    else none
  | none => none

/-- Reads settings, for the rest of the group or for a group of their own. -/
def readSettings (r : PatternReader) (t : Text) : Step :=
  match r.flags.read? t with
  | some (flags, letters, ')', rest) =>
    if letters.isEmpty then none
    else
      -- A setting matches nothing, but it stands in the way of a repetition.
      let setting : Part := ⟨.empty, 0, false⟩
      some ({ r with
        flags := flags
        group := { r.group with items := setting :: r.group.items } }, rest)
  | some (flags, _, _, rest) => some (r.openGroup none flags, rest)
  | none => none

/-- Reads what follows an opening parenthesis. -/
def readOpening (r : PatternReader) (t : Text) : Step :=
  match r.flags.skipBlank t with
  -- Look-around is refused.
  | '?' :: '=' :: _ | '?' :: '!' :: _ | '?' :: '<' :: '=' :: _ | '?' :: '<' :: '!' :: _ => none
  | '?' :: 'P' :: '<' :: rest => r.openNamed rest
  | '?' :: '<' :: rest => r.openNamed rest
  | '?' :: rest => r.readSettings rest
  | rest => some (r.openCapture, rest)

/-- Closes the innermost group. -/
def closeGroup? (r : PatternReader) : Option PatternReader :=
  match r.outer with
  | [] => none
  | next :: outer =>
    let content := groupContent r.group
    let p := match r.group.capture with
      | none => content.pattern
      | some index => .capture index content.pattern
    some { r with
      -- Settings made within the group end with it.
      flags := r.group.outside
      group := { next with items := ⟨p, content.depth + 1, true⟩ :: next.items }
      outer := outer }

/-- Begins a further alternative. -/
def nextAlternative (r : PatternReader) : PatternReader :=
  { r with group := { r.group with
      alternatives := sequence r.group.items.reverse :: r.group.alternatives
      items := [] } }

/-! ## §3 Repetitions -/

/-- Repeats the latest part. -/
def repeatLatest? (r : PatternReader) (least : Nat) (most : Option Nat) (lazy : Bool) :
    Option PatternReader :=
  match r.group.items with
  | part :: items =>
    if part.repeatable then
      -- The question mark and the setting undo each other.
      let p := part.pattern.repeated least most (lazy == r.flags.swapGreed)
      some { r with group := { r.group with items := ⟨p, part.depth + 1, true⟩ :: items } }
    else none
  | [] => none

/-- Reads the question mark that may follow a repetition. -/
def readLazy : Text → Bool × Text
  | '?' :: rest => (true, rest)
  | t => (false, t)

/-- Reads a repetition that is written with one character. -/
def readRepetition (r : PatternReader) (least : Nat) (most : Option Nat) (t : Text) : Step :=
  let (lazy, rest) := readLazy t
  (r.repeatLatest? least most lazy).map fun r => (r, rest)

/-- The digits at the start of a text, which may be set apart in verbose mode. -/
def readDigits (f : Flags) : (fuel : Nat) → Text → Text × Text
  | 0, t => ([], t)
  | _ + 1, [] => ([], [])
  | fuel + 1, c :: rest =>
    if c.isDigit then
      let (digits, rest) := readDigits f fuel (f.skipBlank rest)
      (c :: digits, rest)
    else ([], c :: rest)

/-- Reads a count below `2 ^ 32`, with blank around it. -/
def readCount? (f : Flags) (t : Text) : Option (Nat × Text) := do
  let (digits, rest) := readDigits f t.length (Text.trimStart t)
  let n ← Text.digitsValue? 10 digits
  if n < Nat.pow 2 32 then return (n, Text.trimStart rest) else none

/-- Reads the counts between braces. -/
def readCounts? (f : Flags) (t : Text) : Option (Nat × Option Nat × Text) := do
  let (least, rest) ← readCount? f (f.skipBlank t)
  match rest with
  | '\x7d' :: rest => return (least, some least, rest)
  | ',' :: rest =>
    match f.skipBlank rest with
    | '\x7d' :: rest => return (least, none, rest)
    | rest =>
      match ← readCount? f rest with
      | (most, '\x7d' :: rest) =>
        if least ≤ most then return (least, some most, rest) else none
      | _ => none
  | _ => none

/-- Reads a repetition with counts, behind the opening brace. -/
def readCounted (r : PatternReader) (t : Text) : Step := do
  let (least, most, rest) ← readCounts? r.flags t
  r.readRepetition least most (r.flags.skipBlank rest)

/-! ## §4 Single characters -/

/-- All characters but line ends, or all characters. -/
def dotSet? (f : Flags) : Option CharSet :=
  if !f.unicode then none
  else if f.dotAll then some (.range 0 0x10FFFF)
  else if f.returns then some (.compl (.union (.single '\n') (.single '\r')))
  else some (.compl (.single '\n'))

/-- The condition at the start of a line or of the text. -/
def startLook (f : Flags) : Look :=
  if !f.multiLine then .textStart else if f.returns then .returnLineStart else .lineStart

/-- The condition at the end of a line or of the text. -/
def endLook (f : Flags) : Look :=
  if !f.multiLine then .textEnd else if f.returns then .returnLineEnd else .lineEnd

/-- The pattern that an escape stands for. -/
def escapePattern? (f : Flags) : Escape → Option Pattern
  | .literal l => (l.set? f).map .char
  | .named k negated => (k.set? f negated).map .char
  | .look l => some (.look (l (!f.unicode)))

/-- Reads a single character, an escape, or a condition. -/
def readSingle (r : PatternReader) : Text → Step
  | [] => none
  | '\\' :: rest => do
    let (e, rest) ← Escape.read? r.flags rest
    return (r.add (← escapePattern? r.flags e) 0, rest)
  | '.' :: rest => (dotSet? r.flags).map fun s => (r.add (.char s) 0, rest)
  | '^' :: rest => some (r.add (.look (startLook r.flags)) 0, rest)
  | '$' :: rest => some (r.add (.look (endLook r.flags)) 0, rest)
  | c :: rest => ((Literal.plain c).set? r.flags).map fun s => (r.add (.char s) 0, rest)

/-! ## §5 Patterns -/

/-- Reads one part of a pattern. -/
def step (r : PatternReader) (t : Text) : Step :=
  match t with
  | '(' :: rest => r.readOpening rest
  | ')' :: rest => r.closeGroup?.map fun r => (r, rest)
  | '|' :: rest => some (r.nextAlternative, rest)
  | '[' :: rest =>
    (Bracket.read? r.flags rest).map fun (part, rest) => (r.add (.char part.set) part.depth, rest)
  | '?' :: rest => r.readRepetition 0 (some 1) rest
  | '*' :: rest => r.readRepetition 0 none rest
  | '+' :: rest => r.readRepetition 1 none rest
  | '\x7b' :: rest => r.readCounted rest
  | t => r.readSingle t

/-- Reads all parts of a pattern.  Every part takes at least one character. -/
def readAll (r : PatternReader) (t : Text) : Option PatternReader :=
  match r.flags.skipBlank t with
  | [] => some r
  | c :: rest =>
    match r.step (c :: rest) with
    | none => none
    | some (r, next) => if next.length < t.length then readAll r next else none
termination_by t.length

/-- The state before a pattern is read. -/
def start : PatternReader := ⟨.standard, 0, [], ⟨none, .standard, [], []⟩, []⟩

/-- Reads a pattern and the names of its groups. -/
def read? (t : Text) : Option (Pattern × GroupNames) := do
  let r ← readAll start t
  let content := groupContent r.group
  if r.outer.isEmpty ∧ content.depth ≤ maxDepth
      ∧ content.pattern.weight ≤ Pattern.maxWeight then
    return (content.pattern, r.names)
  else none

end PatternReader

end CommentSwitch
