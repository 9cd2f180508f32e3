import CommentSwitch.Text.Basic

/-!
# Paths

Names of files and directories as they are written.  A path is cut at its slashes and
keeps every segment, so that it is shown as it was given; empty segments and single dots
name nothing of their own.

- `Path.text_ofText`: a path is shown as it was given
- `Path.join`, `Path.parent?`, `Path.fileName?`: parts of paths
- `Path.isSame`: paths that are written alike
-/

namespace CommentSwitch

/-- A path, cut at its slashes; there is at least one segment. -/
structure Path where
  segments : List Text
  deriving DecidableEq, Repr

namespace Path

/-! ## §1 Texts -/

/-- The path that a text stands for. -/
def ofText (t : Text) : Path := ⟨Text.cutAt '/' t⟩

/-- The path as it was given. -/
def text (p : Path) : Text := ['/'].intercalate p.segments

/-- A path is shown as it was given. -/
@[simp] theorem text_ofText (t : Text) : (ofText t).text = t := Text.intercalate_cutAt '/' t

/-- The path of a single segment. -/
def single (name : Text) : Path := ⟨[name]⟩

/-- The path that is not written at all. -/
def empty : Path := single []

/-- A single dot. -/
def dot : Text := ['.']

/-- Two dots. -/
def dots : Text := ['.', '.']

/-- The directory that paths start from. -/
def here : Path := single dot

/-! ## §2 Segments -/

/-- Whether nothing is written. -/
def isEmpty (p : Path) : Bool := p.segments == [[]]

/-- Whether a path starts at the root. -/
def isAbsolute (p : Path) : Bool :=
  match p.segments with
  | [] :: _ :: _ => true
  | _ => false

/-- Whether a segment names nothing of its own. -/
def isVoid (s : Text) : Bool := s.isEmpty || s == dot

/-- The segment that says where a path starts: at the root, or with a dot. -/
def front (p : Path) : List Text :=
  match p.segments with
  | [] :: _ :: _ => [[]]
  | ['.'] :: _ => [dot]
  | _ => []

/-- The other segments. -/
def body (p : Path) : List Text := p.segments.drop p.front.length

/-- The segments that name something, two dots included. -/
def names (p : Path) : List Text := p.body.filter (!isVoid ·)

/-- Whether two paths are written alike, up to segments that name nothing. -/
def isSame (p q : Path) : Bool := p.front == q.front && p.names == q.names

/-- Drops the segments at the end that name nothing. -/
def dropVoid (l : List Text) : List Text := (l.reverse.dropWhile isVoid).reverse

/-- The path of the given segments; a path that starts at the root keeps a slash. -/
def ofParts (front body : List Text) : Path :=
  match front, body with
  | [], [] => empty
  -- The root is written as a slash, which has two empty sides.
  | [[]], [] => ⟨[[], []]⟩
  | front, body => ⟨front ++ body⟩

/-! ## §3 Parts of paths -/

/-- The path without its last name.  A path without names has a parent only if it is a
single dot, and that is the empty path. -/
def parent? (p : Path) : Option Path :=
  match dropVoid p.body with
  | [] => if p.front = [dot] then some empty else none
  | s :: l => some (ofParts p.front (dropVoid (s :: l).dropLast))

/-- The last name of a path, unless that is two dots. -/
def fileName? (p : Path) : Option Text :=
  match (dropVoid p.body).getLast? with
  | some name => if name = dots then none else some name
  | none => none

/-- A path that goes on from another one, unless it starts at the root. -/
def join (base p : Path) : Path :=
  if p.isAbsolute then p
  -- A slash at the end of the base is not doubled.
  else if base.segments.getLast? = some [] then ⟨base.segments.dropLast ++ p.segments⟩
  else ⟨base.segments ++ p.segments⟩

/-- The parent of a path, if it is written. -/
def holder? (p : Path) : Option Path := p.parent?.filter fun parent => !parent.isEmpty

/-- The directory that holds a path: its parent, or where paths start from. -/
def directory (p : Path) : Path := p.holder?.getD here

/-- The path that goes on from another one along some names. -/
def along (root : Path) (names : List Text) : Path :=
  names.foldl (fun p name => p.join (single name)) root

end Path

end CommentSwitch
