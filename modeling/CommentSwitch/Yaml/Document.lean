import CommentSwitch.Yaml.Node
import CommentSwitch.Yaml.TokenStream

/-!
# Reading documents

Builds the nodes of a document from the tokens of a stream.

- `Yaml.firstDocument?`: the first document of a text, and whether the stream ends behind it
-/

namespace CommentSwitch

namespace Yaml

/-! ## §1 The state of reading -/

/-- The state of reading a document. -/
structure DocumentReader where
  tokens : List Token
  /-- What the handles of tags stand for. -/
  handles : List (Text × Text)
  /-- The numbers of the anchors, by name. -/
  names : List (Text × Nat)
  /-- The nodes that have anchors, latest first, as far as they are complete. -/
  anchored : List (Nat × Option Node)
  /-- The number of marks so far. -/
  size : Nat

/-- Reads a part of a document, or fails. -/
abbrev Reading := StateT DocumentReader Option

namespace Reading

/-- The next token. -/
def peek : Reading Token := do
  match (← get).tokens with
  | [] => failure
  | t :: _ => return t

/-- Passes over a token. -/
def skip : Reading Unit := modify fun r => { r with tokens := r.tokens.drop 1 }

/-- Counts marks. -/
def count (n : Nat) : Reading Unit := modify fun r => { r with size := r.size + n }

/-- Counts the marks of a node that is complete. -/
def counted (n : Nat) (node : Node) : Reading Node := do
  count n
  return node

/-- A node that is not written. -/
def blank : Reading Node := counted 1 .blank

/-- Passes over the next token if it is a given one. -/
def skipIf (t : Token) : Reading Bool := do
  if (← peek) = t then
    skip
    return true
  else return false

/-! ## §2 Anchors and tags -/

/-- Gives a name to the node that is about to be read.  Its number is the number of names
known before. -/
def declare (name : Text) : Reading Nat := do
  let r ← get
  let number := r.names.length
  let names := (name, number) :: r.names.filter fun e => e.1 ≠ name
  set { r with names := names, anchored := (number, none) :: r.anchored }
  return r.anchored.length

/-- Keeps a node that has a name, given how many had one before it. -/
def keep (before : Nat) (node : Node) : Reading Unit :=
  modify fun r =>
    -- The list grows in front, so places are counted from its end.
    let at_ := r.anchored.length - 1 - before
    { r with anchored := r.anchored.modify at_ fun e => (e.1, some node) }

/-- The tag that a handle and a suffix stand for. -/
def tag (handle suffix : Text) : Reading Text := do
  if handle.isEmpty then return suffix
  else
    match (← get).handles.lookup handle with
    | some expansion => return expansion ++ suffix
    | none => failure

/-- What stands in front of a node. -/
structure Properties where
  /-- How many nodes had a name before this one, if it has one. -/
  anchor : Option Nat
  tag : Option Text

/-- Whether a node has properties. -/
def Properties.any (p : Properties) : Bool := p.anchor.isSome || p.tag.isSome

/-- Reads an anchor, if there is one. -/
def anchor? : Reading (Option Nat) := do
  match ← peek with
  | .anchor name =>
    skip
    return some (← declare name)
  | _ => return none

/-- Reads a tag, if there is one. -/
def tag? : Reading (Option Text) := do
  match ← peek with
  | .tag handle suffix =>
    skip
    return some (← tag handle suffix)
  | _ => return none

/-- Reads an anchor and a tag, in either order. -/
def properties : Reading Properties := do
  match ← anchor? with
  | some anchor => return ⟨some anchor, ← tag?⟩
  | none =>
    match ← tag? with
    | some tag => return ⟨← anchor?, some tag⟩
    | none => return ⟨none, none⟩

/-- The node that an alias stands for. -/
def aliasNode (name : Text) : Reading Node := do
  skip
  match (← get).names.lookup name with
  | some number => counted 1 (.aliasOf number)
  | none => failure

/-- Reads a scalar.  A mere exclamation mark is no tag of a scalar. -/
def scalar (tag : Option Text) (style : ScalarStyle) (text : Text) : Reading Node := do
  skip
  counted 1 (.scalar (if tag = some ['!'] then none else tag) style text)

/-! ## §3 Nodes -/

/-- Whether nothing is written in front of a token in a block. -/
def endsBlockNode : Token → Bool
  | .key | .value | .blockEnd => true
  | _ => false

/-- Whether nothing is written in front of a token in a flow collection that is closed by
another one. -/
def endsFlowNode (close : Token) (t : Token) : Bool := t = .flowEntry || t = close

mutual

/-- Reads a node.  Block collections are allowed in a block, and there a sequence need not be
indented within a mapping. -/
def node : (fuel : Nat) → (block indentless : Bool) → Reading Node
  | 0, _, _ => failure
  | fuel + 1, block, indentless => do
    match ← peek with
    -- An alias has no properties of its own.
    | .aliasOf name => aliasNode name
    | _ =>
      let p ← properties
      let node ←
        match ← peek with
        | .scalar style text => scalar p.tag style text
        | .flowSequenceStart => do
          skip
          counted 2 (.sequence p.tag (← flowItems fuel true))
        | .flowMappingStart => do
          skip
          counted 2 (.mapping p.tag (← flowEntries fuel true))
        | t =>
          if t = .blockEntry ∧ indentless then do
            counted 2 (.sequence p.tag (← indentlessItems fuel))
          else if t = .blockSequenceStart ∧ block then do
            skip
            counted 2 (.sequence p.tag (← blockItems fuel))
          else if t = .blockMappingStart ∧ block then do
            skip
            counted 2 (.mapping p.tag (← blockEntries fuel))
          -- Properties on their own belong to an empty scalar.
          else if p.any then counted 1 (.scalar p.tag .plain [])
          else failure
      match p.anchor with
      | some before => keep before node
      | none => pure ()
      return node

/-- Reads the items of a block sequence. -/
def blockItems : (fuel : Nat) → Reading (List Node)
  | 0 => failure
  | fuel + 1 => do
    if ← skipIf .blockEntry then
      let t ← peek
      let item ← if t = .blockEntry ∨ t = .blockEnd then blank else node fuel true false
      return item :: (← blockItems fuel)
    else if ← skipIf .blockEnd then return []
    else failure

/-- Reads the items of a sequence that is not indented. -/
def indentlessItems : (fuel : Nat) → Reading (List Node)
  | 0 => failure
  | fuel + 1 => do
    if ← skipIf .blockEntry then
      let t ← peek
      let item ← if t = .blockEntry ∨ endsBlockNode t then blank else node fuel true false
      return item :: (← indentlessItems fuel)
    else return []

/-- Reads the entries of a block mapping. -/
def blockEntries : (fuel : Nat) → Reading (List (Node × Node))
  | 0 => failure
  | fuel + 1 => do
    if ← skipIf .key then
      let k ← if endsBlockNode (← peek) then blank else node fuel true true
      let v ←
        if ← skipIf .value then
          if endsBlockNode (← peek) then blank else node fuel true true
        else blank
      return (k, v) :: (← blockEntries fuel)
    else if ← skipIf .blockEnd then return []
    else failure

/-- Reads the items of a flow sequence; an item may be a single pair. -/
def flowItems : (fuel : Nat) → (first : Bool) → Reading (List Node)
  | 0, _ => failure
  | fuel + 1, first => do
    if ← skipIf .flowSequenceEnd then return []
    else
      if !first then if !(← skipIf .flowEntry) then failure
      if ← skipIf .flowSequenceEnd then return []
      else if ← skipIf .key then
        let t ← peek
        let k ←
          -- The token that shows that there is no key is passed over with it.
          if t = .value ∨ endsFlowNode .flowSequenceEnd t then do
            skip
            blank
          else node fuel false false
        let v ← flowValue fuel .flowSequenceEnd
        let pair ← counted 2 (.mapping none [(k, v)])
        return pair :: (← flowItems fuel false)
      else
        let item ← node fuel false false
        return item :: (← flowItems fuel false)

/-- Reads the entries of a flow mapping; a key may stand alone. -/
def flowEntries : (fuel : Nat) → (first : Bool) → Reading (List (Node × Node))
  | 0, _ => failure
  | fuel + 1, first => do
    if ← skipIf .flowMappingEnd then return []
    else
      if !first then if !(← skipIf .flowEntry) then failure
      if ← skipIf .flowMappingEnd then return []
      else if ← skipIf .key then
        let t ← peek
        let k ←
          if t = .value ∨ endsFlowNode .flowMappingEnd t then blank else node fuel false false
        let v ← flowValue fuel .flowMappingEnd
        return (k, v) :: (← flowEntries fuel false)
      else
        let k ← node fuel false false
        let v ← blank
        return (k, v) :: (← flowEntries fuel false)

/-- Reads the value of a pair in a flow collection that is closed by a given token. -/
def flowValue : (fuel : Nat) → (close : Token) → Reading Node
  | 0, _ => failure
  | fuel + 1, close => do
    if ← skipIf .value then
      if endsFlowNode close (← peek) then blank else node fuel false false
    else blank

end

/-! ## §4 Documents -/

/-- Reads directives: a version at most once, which is known, and handles of tags, each at
most once. -/
def directives : (fuel : Nat) → (versionSeen : Bool) → Reading Unit
  | 0, _ => failure
  | fuel + 1, versionSeen => do
    match ← peek with
    | .versionDirective major minor =>
      if versionSeen ∨ major ≠ 1 ∨ (minor ≠ 1 ∧ minor ≠ 2) then failure
      else
        skip
        directives fuel true
    | .tagDirective handle expansion =>
      if ((← get).handles.lookup handle).isSome then failure
      else
        skip
        modify fun r => { r with handles := (handle, expansion) :: r.handles }
        directives fuel versionSeen
    | _ => return ()

/-- The handles that need no directive. -/
def standardHandles : List (Text × Text) :=
  [(['!'], ['!']), (['!', '!'], "tag:yaml.org,2002:".toList)]

/-- Makes the standard handles known, unless directives have defined them. -/
def addStandardHandles : Reading Unit :=
  modify fun r => { r with handles := r.handles ++ standardHandles }

/-- Whether a document ends in front of a token, or has not begun. -/
def bordersDocument : Token → Bool
  | .versionDirective _ _ | .tagDirective _ _ | .documentStart | .documentEnd | .streamEnd =>
    true
  | _ => false

/-- Reads a document that starts with directives or with a mark. -/
def markedDocument (fuel : Nat) : Reading Node := do
  directives fuel false
  addStandardHandles
  if ← skipIf .documentStart then
    if bordersDocument (← peek) then blank else node fuel true false
  else failure

/-- Reads the first document, if there is any. -/
def document (fuel : Nat) : Reading (Option Node) := do
  let t ← peek
  if t = .streamEnd then return none
  else if bordersDocument t ∧ t ≠ .documentEnd then return some (← markedDocument fuel)
  else
    addStandardHandles
    return some (← node fuel true false)

end Reading

/-- The first document of a text, and whether the stream ends behind it. -/
def firstDocument? (t : Text) : Option (Document × Bool) := do
  let tokens := tokens t
  let (root, r) ← (Reading.document (3 * tokens.length + 3)).run ⟨tokens, [], [], [], 0⟩
  let anchors := r.anchored.filterMap fun e => e.2.map fun node => (e.1, node)
  let rest := r.tokens.dropWhile (· = .documentEnd)
  return (⟨root, anchors, r.size⟩, rest.head? = some .streamEnd)

end Yaml

end CommentSwitch
