import CommentSwitch.Converter.File

/-!
# Batches

Converts all files of some sources, into a target directory or in place.  Nothing is
changed before every source has been checked.

- `Job.ofSources`: what is to be converted; the first source with a file wins
- `Converter.process`: converts into a target directory, which is cleared first
- `Converter.applyInPlace`: converts files in place
-/

namespace CommentSwitch

open FileAction

/-! ## §1 Jobs -/

/-- A file to be converted into another one, or into itself. -/
structure Job where
  input : Path
  output : Path
  deriving DecidableEq, Repr

/-- A file of a source, with the names that lead to it from there. -/
structure SourceFile where
  path : Path
  names : List Text
  deriving DecidableEq, Repr

namespace FileSystem

/-- The files of a source: the files beneath a directory, or a file itself. -/
def sourceFiles (fs : FileSystem) (source : Path) : Except Failure (List SourceFile) :=
  match fs.locate source with
  | .error _ => .error (.sourceNotWalked source)
  | .ok (l, .directory) =>
    .ok ((fs.filesBeneath l).map fun names => ⟨source.along names, names⟩)
  | .ok (_, .file _) =>
    match source.fileName? with
    -- A file lies in the target under its own name.
    | some name => .ok [⟨source, [name]⟩]
    | none => .error (.sourceUnnamed source)

/-- Whether a source can be processed: it is there, and the target is not around it. -/
def checkSource (fs : FileSystem) (target source : Path) : Except Failure Unit :=
  if !fs.isThere source then .error (.pathMissing source)
  else if fs.isWithin source target then .error (.sourceInTarget target source)
  else .ok ()

end FileSystem

namespace Job

/-- Keeps the first file of each relative path. -/
def firstOfEach (seen : List (List Text)) : List SourceFile → List SourceFile
  | [] => []
  | f :: files =>
    if f.names ∈ seen then firstOfEach seen files
    else f :: firstOfEach (f.names :: seen) files

/-- The jobs that convert the files of some sources into a target directory. -/
def ofSources (fs : FileSystem) (sources : List Path) (target : Path) :
    Except Failure (List Job) := do
  let files ← sources.mapM fs.sourceFiles
  return (firstOfEach [] files.flatten).map fun f => ⟨f.path, target.along f.names⟩

/-- The jobs that convert the files of a path in place. -/
def inPlace (fs : FileSystem) (p : Path) : Except Failure (List Job) := do
  if !fs.isThere p then throw (.pathMissing p)
  return (← fs.sourceFiles p).map fun f => ⟨f.path, f.path⟩

/-- The jobs that convert the files of some paths in place. -/
def allInPlace (fs : FileSystem) (paths : List Path) : Except Failure (List Job) :=
  return (← paths.mapM (inPlace fs)).flatten

end Job

/-! ## §2 Summaries -/

namespace Batch

/-- The summary of a batch. -/
def summary (sources : List Path) (target : Path) (total : Nat) : Text :=
  Text.ofString "Target: " ++ target.text
    ++ Text.ofString "\nSources: [" ++ (Text.ofString ", ").intercalate (sources.map Path.text)
    ++ Text.ofString "]\nTotal Files: " ++ Text.ofNat total ++ ['\n']

/-- The file that the summary is written to, beside the target; none if the target has no
last name. -/
def summaryFile? (target : Path) : Option Path :=
  target.fileName?.map fun name =>
    target.directory.join (.single (name ++ Text.ofString ".txt"))

/-- Writes the summary of a batch. -/
def writeSummary (sources : List Path) (target : Path) (total : Nat) :
    FileAction Failure Unit :=
  match summaryFile? target with
  -- A target without a last name has no place for a summary.
  | none => return ()
  | some file => do
    orElse (createAll target.directory) fun _ => .directoryNotCreated target.directory
    orElse (write file (FileSystem.bytesOf (summary sources target total)))
      fun _ => .summaryNotWritten file

/-- Removes a target directory that is there. -/
def clear (target : Path) : FileAction Failure Unit := do
  if ← ask (·.isThere target) then
    orElse (removeAll target) fun _ => .targetNotCleared target

end Batch

/-! ## §3 Conversion -/

namespace Converter

/-- Carries out jobs, in order. -/
def convertJobs (c : Converter) (jobs : List Job) : FileAction Failure (List FileReport) :=
  jobs.mapM fun j => c.convertFile j.input j.output

/-- Converts the files of some sources into a target directory. -/
def process (c : Converter) (sources : List Path) (target : Path) :
    FileAction Failure (List FileReport) := do
  if sources.isEmpty then throw .sourcesMissing
  -- Every source is checked before the target is cleared.
  askOr fun fs => sources.forM (fs.checkSource target)
  Batch.clear target
  -- The jobs are found in what is left, so files of the old target are not among them.
  let jobs ← askOr fun fs => Job.ofSources fs sources target
  let reports ← c.convertJobs jobs
  Batch.writeSummary sources target reports.length
  return reports

/-- Converts the files of some paths in place. -/
def applyInPlace (c : Converter) (paths : List Path) : FileAction Failure (List FileReport) := do
  c.convertJobs (← askOr fun fs => Job.allInPlace fs paths)

end Converter

end CommentSwitch
