import CommentSwitch.Yaml.Token

/-!
# Nodes of a document

What a document holds: scalars, sequences and mappings, each perhaps with a tag, and
aliases of nodes that have an anchor.

- `Document.resolve?`: the node that an alias stands for
-/

namespace CommentSwitch

namespace Yaml

/-- A node of a document. -/
inductive Node
  | scalar (tag : Option Text) (style : ScalarStyle) (text : Text)
  | sequence (tag : Option Text) (items : List Node)
  | mapping (tag : Option Text) (entries : List (Node × Node))
  /-- The node with an anchor of a given number. -/
  | aliasOf (anchor : Nat)

/-- The node that stands where nothing is written. -/
def Node.blank : Node := .scalar none .plain []

/-- A document. -/
structure Document where
  /-- What the document holds; nothing, if the stream is empty. -/
  root : Option Node
  /-- The nodes that have anchors, latest first. -/
  anchors : List (Nat × Node)
  /-- The number of marks that the nodes are made of: two for a collection, and one for
  anything else. -/
  size : Nat

/-- The node that an alias stands for. -/
def Document.resolve? (d : Document) (anchor : Nat) : Option Node := d.anchors.lookup anchor

end Yaml

end CommentSwitch
