import CommentSwitch.Dictionary
import CommentSwitch.Files.Path

/-!
# File systems

Directories and files, and the operations on them that conversions need.  A file system
is a finite map from places to what is there; a place is the list of names on the way from
the root.  An operation that fails may have changed something before.

- `FileSystem.locate`: the place that a path leads to
- `FileAction`: what operations do and why they fail
- `FileAction.runOn`: the result of an operation and the file system that it leaves
- `FileSystem.contentAt`, `FileSystem.textAt`: what a file holds
- `FileAction.createAll`, `FileAction.replace`, `FileAction.removeAll`: operations
-/

namespace CommentSwitch

/-! ## §1 Contents -/

/-- A place: the names on the way from the root. -/
abbrev Location := List Text

/-- What is at a place. -/
inductive Entry
  | directory
  | file (content : ByteArray)

instance : DecidableEq Entry
  | .directory, .directory => isTrue rfl
  | .directory, .file _ => isFalse nofun
  | .file _, .directory => isFalse nofun
  | .file a, .file b =>
    match ByteArray.instDecidableEq a b with
    | isTrue h => isTrue (congrArg Entry.file h)
    | isFalse h => isFalse fun e => h (Entry.file.inj e)

/-- A file system.  The root is always a directory. -/
structure FileSystem where
  entries : Dictionary Location Entry
  /-- The directory from which paths start that do not start at the root. -/
  start : Location

/-- Why an operation fails. -/
inductive FileFault
  | notFound
  | notADirectory
  | isADirectory
  | exists_
  | busy
  | invalid
  /-- The content is no text. -/
  | notText
  deriving DecidableEq, Repr

/-- The wording of a fault. -/
def FileFault.text : FileFault → Text
  | notFound => Text.ofString "No such file or directory (os error 2)"
  | notADirectory => Text.ofString "Not a directory (os error 20)"
  | isADirectory => Text.ofString "Is a directory (os error 21)"
  | exists_ => Text.ofString "File exists (os error 17)"
  | busy => Text.ofString "Device or resource busy (os error 16)"
  | invalid => Text.ofString "Invalid argument (os error 22)"
  | notText => Text.ofString "stream did not contain valid UTF-8"

namespace FileSystem

/-- What is at a place. -/
def at? (fs : FileSystem) (l : Location) : Option Entry :=
  if l.isEmpty then some .directory else fs.entries.get? l

/-- Puts something at a place. -/
def put (fs : FileSystem) (l : Location) (e : Entry) : FileSystem :=
  { fs with entries := fs.entries.insert l e }

/-- Removes a place and all places beneath it. -/
def remove (fs : FileSystem) (l : Location) : FileSystem :=
  { fs with entries := fs.entries.filter fun k _ => !l.isPrefixOf k }

/-! ## §2 Following paths -/

/-- Goes from a place along some segments.  Every segment starts at a directory; the place
that is reached may be empty. -/
def follow (fs : FileSystem) : Location → List Text → Except FileFault Location
  | l, [] => .ok l
  | l, s :: rest =>
    match fs.at? l with
    | none => .error .notFound
    | some (.file _) => .error .notADirectory
    | some .directory =>
      -- Even a segment that names nothing asks for a directory in front of it.
      if Path.isVoid s then follow fs l rest
      else if s = Path.dots then follow fs l.dropLast rest
      else follow fs (l ++ [s]) rest

/-- The place where a path starts. -/
def origin (fs : FileSystem) (p : Path) : Location := if p.isAbsolute then [] else fs.start

/-- The place that a path leads to, with what is there. -/
def locate (fs : FileSystem) (p : Path) : Except FileFault (Location × Entry) :=
  if p.isEmpty then .error .notFound
  else do
    let l ← fs.follow (fs.origin p) p.segments
    match fs.at? l with
    | some e => return (l, e)
    | none => .error .notFound

/-- Whether a path leads to something. -/
def isThere (fs : FileSystem) (p : Path) : Bool := (fs.locate p).isOk

/-- Whether a path leads to a directory. -/
def isDirectory (fs : FileSystem) (p : Path) : Bool :=
  match fs.locate p with
  | .ok (_, .directory) => true
  | _ => false

/-- Whether a path leads to a file. -/
def isFile (fs : FileSystem) (p : Path) : Bool :=
  match fs.locate p with
  | .ok (_, .file _) => true
  | _ => false

/-- Where something is to be put: the name within a directory, unless the path ends with
dots. -/
inductive Slot
  | named (place : Location) (slashed : Bool)
  | dots
  | root

/-- Where a path says that something is to be put.  The directory is there already; a slash
may follow the name. -/
def slot (fs : FileSystem) (p : Path) : Except FileFault Slot :=
  let trimmed := p.segments.reverse.dropWhile List.isEmpty
  match trimmed with
  | [] => if p.isEmpty then .error .notFound else .ok .root
  | last :: before => do
    -- The empty segment at the end makes sure that the name is put in a directory.
    let l ← fs.follow (fs.origin p) (before.reverse ++ [[]])
    if last = Path.dot ∨ last = Path.dots then return .dots
    else return .named (l ++ [last]) (trimmed.length < p.segments.length)

/-- Whether two paths lead to one place. -/
def isSamePlace (fs : FileSystem) (p q : Path) : Bool :=
  match fs.locate p, fs.locate q with
  | .ok (l, _), .ok (m, _) => l == m
  | _, _ => false

/-- Whether a path leads to a place beneath another one, or to that. -/
def isWithin (fs : FileSystem) (p directory : Path) : Bool :=
  match fs.locate p, fs.locate directory with
  | .ok (l, _), .ok (m, _) => m.isPrefixOf l
  | _, _ => false

/-- The text that bytes encode. -/
def textOf? (content : ByteArray) : Option Text :=
  (String.fromUTF8? content).map Text.ofString

/-- The bytes that encode a text. -/
def bytesOf (t : Text) : ByteArray := t.asString.toUTF8

/-- The content of the file that a path leads to. -/
def contentAt (fs : FileSystem) (p : Path) : Except FileFault ByteArray := do
  match ← fs.locate p with
  | (_, .file content) => return content
  | (_, .directory) => throw .isADirectory

/-- The text of the file that a path leads to. -/
def textAt (fs : FileSystem) (p : Path) : Except FileFault Text := do
  match textOf? (← fs.contentAt p) with
  | some t => return t
  | none => throw .notText

/-- The files beneath a place, each by the names that lead to it, in the order of these. -/
def filesBeneath (fs : FileSystem) (l : Location) : List (List Text) :=
  fs.entries.entries.filterMap fun (k, e) =>
    match e with
    | .directory => none
    | .file _ => if l.isPrefixOf k then some (k.drop l.length) else none

end FileSystem

/-! ## §3 Operations -/

/-- An operation on a file system, which may fail after it has changed something. -/
abbrev FileAction (ε α : Type) := ExceptT ε (StateM FileSystem) α

namespace FileAction

/-- The result of an operation on a file system, and the file system that it leaves. -/
def runOn {ε α : Type} (action : FileAction ε α) (fs : FileSystem) : Except ε α × FileSystem :=
  action.run.run fs

@[simp] theorem runOn_pure {ε α : Type} (a : α) (fs : FileSystem) :
    (pure a : FileAction ε α).runOn fs = (.ok a, fs) := rfl

@[simp] theorem runOn_throw {ε α : Type} (e : ε) (fs : FileSystem) :
    (throw e : FileAction ε α).runOn fs = (.error e, fs) := rfl

/-- What follows an operation starts from the file system that it leaves, if it succeeds. -/
theorem runOn_bind {ε α β : Type} (action : FileAction ε α) (next : α → FileAction ε β)
    (fs : FileSystem) :
    (action >>= next).runOn fs =
      match action.runOn fs with
      | (.ok a, fs) => (next a).runOn fs
      | (.error e, fs) => (.error e, fs) := by
  simp only [runOn, ExceptT.run_bind, StateT.run_bind]
  cases h : (StateT.run (ExceptT.run action) fs) with
  | mk r fs => cases r <;> rfl

/-- The answer to a question about the file system. -/
def ask {ε α : Type} (f : FileSystem → α) : FileAction ε α := return f (← get)

/-- The answer to a question that may have none. -/
def askOr {ε α : Type} (f : FileSystem → Except ε α) : FileAction ε α := do
  match f (← get) with
  | .ok a => return a
  | .error e => throw e

@[simp] theorem runOn_ask {ε α : Type} (f : FileSystem → α) (fs : FileSystem) :
    (ask f : FileAction ε α).runOn fs = (.ok (f fs), fs) := rfl

/-- A question changes nothing, whether it has an answer or not. -/
@[simp] theorem runOn_askOr {ε α : Type} (f : FileSystem → Except ε α) (fs : FileSystem) :
    (askOr f).runOn fs = (f fs, fs) := by
  change (match f fs with
    | .ok a => pure a
    | .error e => throw e : FileAction ε α).runOn fs = _
  cases f fs <;> rfl

/-- An operation whose faults are told in another way. -/
def orElse {δ ε α : Type} (action : FileAction δ α) (f : δ → ε) : FileAction ε α :=
  ExceptT.adapt f action

/-- The result of an operation, whether it has succeeded or not. -/
def attempt {δ ε α : Type} (action : FileAction δ α) : FileAction ε (Except δ α) :=
  ExceptT.lift action.run

/-- Faults are told in another way, and nothing else is different. -/
@[simp] theorem runOn_orElse {δ ε α : Type} (action : FileAction δ α) (f : δ → ε)
    (fs : FileSystem) :
    (orElse action f).runOn fs = ((action.runOn fs).1.mapError f, (action.runOn fs).2) := rfl

/-- An operation that is attempted succeeds with its result. -/
@[simp] theorem runOn_attempt {δ ε α : Type} (action : FileAction δ α) (fs : FileSystem) :
    (attempt action : FileAction ε (Except δ α)).runOn fs
      = (.ok (action.runOn fs).1, (action.runOn fs).2) := rfl

/-- Creates a directory in one that is there. -/
def create (p : Path) : FileAction FileFault Unit := do
  match ← askOr (·.slot p) with
  | .named l _ =>
    if (← ask (·.at? l)).isSome then throw .exists_
    else modify (·.put l .directory)
  | _ => throw .exists_

/-- Creates a directory that may be there already. -/
def ensure (p : Path) : FileAction FileFault Unit := do
  try create p
  catch e => if ← ask (·.isDirectory p) then pure () else throw e

/-- Creates a directory and those that hold it, at most `fuel` of them, as far as they are
missing. -/
def createFrom : (fuel : Nat) → Path → FileAction FileFault Unit
  | 0, p => ensure p
  | fuel + 1, p => do
    -- The path that is not written stands for where paths start, which is there.
    if p.isEmpty then return ()
    else
      try create p
      catch e =>
        if e = .notFound then
          match p.parent? with
          | some parent => createFrom fuel parent
          | none => throw e
          ensure p
        else if ← ask (·.isDirectory p) then pure ()
        else throw e

/-- Creates a directory and those that hold it, as far as they are missing. -/
def createAll (p : Path) : FileAction FileFault Unit := createFrom p.segments.length p

/-- Writes a file, which is created if it is missing. -/
def write (p : Path) (content : ByteArray) : FileAction FileFault Unit := do
  match ← askOr (·.slot p) with
  | .named l slashed =>
    if slashed ∨ (← ask (·.at? l)) = some .directory then throw .isADirectory
    else modify (·.put l (.file content))
  | _ => throw .isADirectory

/-- Writes the content of one file into another, which is emptied before anything is read:
a file that is copied onto itself is lost. -/
def copy (input output : Path) : FileAction FileFault Unit := do
  -- What can not be read is not copied, and the output is not touched.
  let _ ← askOr (·.contentAt input)
  write output ByteArray.empty
  write output (← askOr (·.contentAt input))

/-- Puts a file that is complete in the place of another one, or where none is. -/
def replace (p : Path) (content : ByteArray) : FileAction FileFault Unit := do
  match ← askOr (·.slot p) with
  | .named l slashed =>
    if slashed then throw .notADirectory
    else if (← ask (·.at? l)) = some .directory then throw .isADirectory
    else modify (·.put l (.file content))
  | _ => throw .busy

/-- Removes a directory with everything beneath it. -/
def removeAll (p : Path) : FileAction FileFault Unit := do
  match ← askOr (·.locate p), ← askOr (·.slot p) with
  | (_, .file _), _ => throw .notADirectory
  | (l, .directory), .named _ _ => modify (·.remove l)
  -- A path that ends with dots names no entry of a directory.
  | (_, .directory), _ => throw .invalid

end FileAction

end CommentSwitch
