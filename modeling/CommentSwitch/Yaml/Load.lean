import CommentSwitch.Yaml.Document
import CommentSwitch.Yaml.Value

/-!
# Loading values from documents

Reads texts, truth values, mappings and trees of any kind from the nodes of a document.
Collections may be nested to a limited depth, and aliases may be followed a limited number
of times, so that a small document can not stand for a huge one.

- `Yaml.load`: loads a value from a text that holds a single document
- `Load.text`, `Load.bool?`, `Load.text?`, `Load.entries`: what a node is read as
- `Load.tree`: a node as a tree of values
-/

namespace CommentSwitch

namespace Yaml

/-! ## §1 Loading -/

/-- Why nothing can be loaded. -/
inductive LoadFault
  /-- The text is no document, or not the one that is expected. -/
  | malformed
  /-- The value under a key is of a kind that can not be used. -/
  | unusable (key : Text)
  deriving DecidableEq, Repr

/-- Loads from a document; the state is the number of aliases that may still be followed. -/
abbrev Load := ReaderT Document (StateT Nat (Except LoadFault))

/-- The greatest depth to which collections may be nested. -/
def maxDepth : Nat := 128

/-- How many times aliases may be followed for each mark of a document. -/
def aliasesPerMark : Nat := 100

/-- Loads a value from the root of a document, which may hold nothing. -/
def loadDocument {α : Type} (value : Option Node → Load α) (d : Document) :
    Except LoadFault α :=
  (((value d.root).run d).run (aliasesPerMark * d.size)).map (·.1)

/-- Loads a value from a text that holds a single document. -/
def load {α : Type} (value : Option Node → Load α) (t : Text) : Except LoadFault α :=
  match firstDocument? t with
  | none => .error .malformed
  | some (d, isLast) => do
    -- The first document is read before a second one is noticed, and so are its faults.
    let a ← loadDocument value d
    if isLast then return a else throw .malformed

namespace Load

/-- The document is not the one that is expected. -/
def mismatch {α : Type} : Load α := throw .malformed

/-- The node that is meant, if an alias stands for it. -/
def follow (n : Node) : Load Node := do
  match n with
  | .aliasOf anchor =>
    match (← read).resolve? anchor, ← get with
    -- Every alias that is followed uses up a part of what is allowed.
    | some node, left + 1 =>
      set left
      return node
    | _, _ => mismatch
  | n => return n

/-! ## §2 Scalars -/

/-- The text of a scalar of any kind. -/
def text (n : Node) : Load Text := do
  match ← follow n with
  | .scalar _ _ t => return t
  | _ => mismatch

/-- The tag of one of the kinds of values that the format itself knows. -/
def coreTag (name : String) : Text := ("tag:yaml.org,2002:" ++ name).toList

/-- The truth value of a scalar, which is plain, or a block with a tag that says so. -/
def bool (n : Node) : Load Bool := do
  match ← follow n with
  | .scalar tag style t =>
    if style = .plain ∨ (style = .literal ∧ tag = some (coreTag "bool")) then
      match Scalar.bool? t with
      | some b => return b
      | none => mismatch
    else mismatch
  | _ => mismatch

/-- Whether a scalar says that there is no value. -/
def saysNothing (tag : Option Text) (style : ScalarStyle) (t : Text) : Load Bool := do
  if style ≠ .plain then return false
  else
    match tag with
    | none => return t.isEmpty || Scalar.isNull t
    | some tag =>
      if tag ≠ coreTag "null" then return false
      else if Scalar.isNull t then return true
      else mismatch

/-- A value that may be missing. -/
def optional {α : Type} (value : Node → Load α) (n : Node) : Load (Option α) := do
  match ← follow n with
  | .scalar tag style t =>
    if ← saysNothing tag style t then return none
    else return some (← value (.scalar tag style t))
  | n => return some (← value n)

/-- A truth value that may be missing. -/
def bool? : Node → Load (Option Bool) := optional bool

/-- A text that may be missing. -/
def text? : Node → Load (Option Text) := optional text

/-! ## §3 Mappings -/

/-- The entries of a mapping, and the depth that is left within it.  A scalar that is not
written stands for a mapping without entries. -/
def entries (depth : Nat) (n : Node) : Load (List (Node × Node) × Nat) := do
  match ← follow n, depth with
  | .mapping _ l, depth + 1 => return (l, depth)
  -- A value that is not written holds no entries.
  | .scalar _ .plain [], depth => return ([], depth)
  | _, _ => mismatch

/-- The entries of the mapping at the root of a document. -/
def rootEntries : Option Node → Load (List (Node × Node) × Nat)
  | none => return ([], maxDepth)
  | some n => entries maxDepth n

/-- The entries of a mapping of texts. -/
def texts (depth : Nat) (n : Node) : Load (List (Text × Text)) := do
  let (l, _) ← entries depth n
  l.mapM fun (k, v) => do return (← text k, ← text v)

end Load

/-! ## §4 Trees -/

/-- A value of any kind. -/
inductive Tree
  | null
  | bool (b : Bool)
  | number (n : Number)
  | text (t : Text)
  | sequence (items : List Tree)
  | mapping (entries : List (Tree × Tree))
  | tagged (tag : Text) (value : Tree)

namespace Tree

/-- Whether two values are the same up to a given depth; the order of the entries of a
mapping does not count. -/
def same : (depth : Nat) → Tree → Tree → Bool
  | 0, _, _ => false
  | _ + 1, null, null => true
  | _ + 1, bool a, bool b => a == b
  | _ + 1, number m, number n => m.same n
  | _ + 1, text s, text t => s == t
  | depth + 1, sequence s, sequence t =>
    s.length == t.length && (s.zip t).all fun (a, b) => same depth a b
  | depth + 1, mapping s, mapping t =>
    s.length == t.length && s.all fun (k, v) => t.any fun (l, w) =>
      same depth k l && same depth v w
  | depth + 1, tagged s a, tagged t b => s == t && same depth a b
  | _ + 1, _, _ => false

/-- What a scalar without a tag of its own stands for. -/
def ofScalarValue? : Scalar.Value → Option Tree
  | .null => some null
  | .bool b => some (bool b)
  | .number n => some (number n)
  | .text t => some (text t)
  | .tooLarge => none

/-- What a scalar with a tag stands for. -/
def ofTagged? (tag t : Text) : Option Tree :=
  if tag = Load.coreTag "bool" then (Scalar.bool? t).map bool
  else if tag = Load.coreTag "int" then
    match Scalar.integer? t with
    | some (.number n) => some (number n)
    | _ => none
  else if tag = Load.coreTag "float" then (Scalar.float? t).map number
  else if tag = Load.coreTag "null" then if Scalar.isNull t then some null else none
  else some (text t)

/-- What a scalar stands for. -/
def ofScalar? (tag : Option Text) (style : ScalarStyle) (t : Text) : Option Tree :=
  match tag with
  | some tag => ofTagged? tag t
  | none => if style = .plain then ofScalarValue? (Scalar.value t) else some (text t)

/-- The name in a tag that is private to a document. -/
def privateTag? : Option Text → Option Text
  | some ['!'] => some ['!']
  | some ('!' :: name) => some name
  | _ => none

end Tree

namespace Load

/-- Adds an entry to a mapping, in which every key is different. -/
def addEntry (l : List (Tree × Tree)) (k v : Tree) : Load (List (Tree × Tree)) :=
  if l.any fun e => e.1.same (2 * maxDepth + 2) k then mismatch else return l ++ [(k, v)]

/-- A node without regard to its tag, as a tree; `inner` reads the nodes within it. -/
def untagged (inner : Option (Node → Load Tree)) : Node → Load Tree
  | .sequence _ items =>
    match inner with
    | some inner => do return .sequence (← items.mapM inner)
    | none => mismatch
  | .mapping _ l =>
    match inner with
    | some inner => do
      return .mapping (← l.foldlM (fun l (k, v) => do addEntry l (← inner k) (← inner v)) [])
    | none => mismatch
  | .scalar tag style t =>
    match Tree.ofScalar? (if (Tree.privateTag? tag).isSome then none else tag) style t with
    | some tree => return tree
    | none => mismatch
  | .aliasOf _ => mismatch

/-- The tag of a node. -/
def tagOf : Node → Option Text
  | .scalar tag _ _ => tag
  | .sequence tag _ => tag
  | .mapping tag _ => tag
  | .aliasOf _ => none

/-- A node as a tree, given how it reads the nodes within it. -/
def treeWith (inner : Option (Node → Load Tree)) (n : Node) : Load Tree := do
  let n ← follow n
  match Tree.privateTag? (tagOf n) with
  | some name => return .tagged name (← untagged inner n)
  | none => untagged inner n

/-- A node as a tree of at most the given depth. -/
def tree : (depth : Nat) → Node → Load Tree
  | 0 => treeWith none
  | depth + 1 => treeWith (some (tree depth))

end Load

end Yaml

end CommentSwitch
