import CommentSwitch.CommandLine.Run

/-!
# The program

Reads the files that a run may need, carries out the command line on them, and writes back
what has changed.

- `Main.snapshot`: the files that a run may need
- `Main.writeBack`: makes the changes of a run
- `main`: the entry point
-/

namespace CommentSwitch

namespace Main

open CommandLine

/-! ## §1 What a run may need -/

/-- The place that some segments lead to from another place, by their names alone. -/
def placeFrom (l : Location) (segments : List Text) : Location :=
  segments.foldl (fun l s =>
    if Path.isVoid s then l else if s = Path.dots then l.dropLast else l ++ [s]) l

/-- The places on the way of a path, the last one included. -/
def placesOf (start : Location) (p : Path) : List Location :=
  let origin := if p.isAbsolute then [] else start
  (List.range (p.segments.length + 1)).map fun n => placeFrom origin (p.segments.take n)

/-- The paths of an invocation whose files are needed with all that is beneath them. -/
def treesOf : Command → List Path
  | .process sources target => target :: sources
  | .apply paths => paths
  | .convert _ _ _ => []

/-- The paths of an invocation that are needed by themselves. -/
def filesOf : Command → List Path
  | .process _ target => (Batch.summaryFile? target).toList
  | .apply _ => []
  | .convert input output _ => input :: output.toList

/-- Whether an invocation reads the standard input. -/
def readsInput (i : Invocation) : Bool :=
  match i.showConfig, i.command with
  | false, some (.convert input _ _) => input.isSame dash
  | _, _ => false

/-! ## §2 Reading -/

/-- A place, written as an absolute path. -/
def absolute (l : Location) : String := "/" ++ "/".intercalate (l.map Text.asString)

/-- Takes what is at a place into a file system. -/
def takeIn (fs : FileSystem) (l : Location) : IO FileSystem := do
  let path := (← IO.currentDir) / absolute l
  if ← path.isDir then return fs.put l .directory
  else if ← path.pathExists then return fs.put l (.file (← IO.FS.readBinFile path))
  else return fs

/-- Takes what is at a place and beneath it into a file system. -/
partial def takeInTree (fs : FileSystem) (l : Location) : IO FileSystem := do
  let fs ← takeIn fs l
  let path := (← IO.currentDir) / absolute l
  if ← path.isDir then
    (← path.readDir).foldlM (fun fs e => takeInTree fs (l ++ [e.fileName.toList])) fs
  else return fs

/-- Takes what is on the way of a path into a file system. -/
def takeInPath (fs : FileSystem) (p : Path) : IO FileSystem :=
  (placesOf fs.start p).foldlM takeIn fs

/-- Takes the bases of a configuration file into a file system. -/
def takeInBases : (files : Nat) → FileSystem → Path → IO FileSystem
  | 0, fs, _ => return fs
  | files + 1, fs, file => do
    let fs ← takeInPath fs file
    match Settings.fileAt (fun t => (SettingsFile.load t).toOption) fs file with
    -- Only what the file says can tell where its base is.
    | .ok ⟨some name, _⟩ => takeInBases files fs (Settings.baseFile file name)
    | _ => return fs

/-- The files that a run may need. -/
def snapshot (start : Location) (home : Path) (i : Invocation) : IO FileSystem := do
  let files := i.config.toList ++ Settings.usualFiles ++ [Settings.userFile home]
  let fs ← files.foldlM (takeInBases (Settings.baseLimit + 2)) ⟨.empty, start⟩
  let fs ← (i.command.toList.flatMap filesOf).foldlM takeInPath fs
  (i.command.toList.flatMap treesOf).foldlM (fun fs p => do
    takeInTree (← takeInPath fs p) ((placesOf start p).getLastD start)) fs

/-! ## §3 Writing -/

/-- Whether two entries are of one kind. -/
def isOneKind : Entry → Option Entry → Bool
  | .directory, some .directory => true
  | .file _, some (.file _) => true
  | _, _ => false

/-- Writes a file that takes the place of another one when it is complete. -/
def writeFile (path : String) (content : ByteArray) : IO Unit := do
  let partial_ := path ++ ".partial"
  IO.FS.writeBinFile partial_ content
  IO.FS.rename partial_ path

/-- Makes the changes of a run: what is gone is removed, and what is new is written. -/
def writeBack (before after : FileSystem) : IO Unit := do
  -- What lies within a directory comes behind it in order, so it is removed first.
  for (l, e) in before.entries.entries.reverse do
    if !isOneKind e (after.entries.get? l) then
      match e with
      | .directory => IO.FS.removeDir (absolute l)
      | .file _ => IO.FS.removeFile (absolute l)
  -- A directory comes in front of what lies in it, so it is there in time.
  for (l, e) in after.entries.entries do
    if before.entries.get? l ≠ some e then
      match e with
      | .directory => IO.FS.createDir (absolute l)
      | .file content => writeFile (absolute l) content

/-! ## §4 Telling -/

/-- Writes an answer where it belongs. -/
def tell : Answer → IO Unit
  | .output t => do
    let out ← IO.getStdout
    out.putStr t.asString
    out.flush
  | .fault f => do
    IO.eprintln ("Error: " ++ f.text.asString)
    if let some cause := f.cause? then
      IO.eprintln ("\nCaused by:\n    " ++ cause.asString)
  | .misuse => IO.eprint usage.asString

end Main

end CommentSwitch

open CommentSwitch in
/-- Carries out a command line. -/
def main (args : List String) : IO UInt32 := do
  let words := args.map String.toList
  let start := (Path.ofText (toString (← IO.currentDir)).toList).names
  let home := Path.ofText ((← IO.getEnv "HOME").getD "/").toList
  let (before, input) ← match CommandLine.Invocation.ofWords words with
    | .error _ => pure (⟨.empty, start⟩, .empty)
    | .ok i => do
      let input ← if Main.readsInput i then (← IO.getStdin).readBinToEnd else pure .empty
      pure (← Main.snapshot start home i, input)
  let (answer, after) := CommandLine.answer words ⟨home, input⟩ before
  Main.writeBack before after
  Main.tell answer
  return UInt32.ofNat answer.code
