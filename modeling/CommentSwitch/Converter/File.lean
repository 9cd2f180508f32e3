import CommentSwitch.Converter
import CommentSwitch.Converter.Failure
import CommentSwitch.Files.FileSystem
import CommentSwitch.Report.Outcome
import CommentSwitch.Text.Lines

/-!
# Converting a file

A file is read as a whole, its lines are converted, and the output takes the place of
what was there before only when it is complete.  A file that can not be read or written as
text is copied as it is; one whose directives are at fault is not written at all.

- `Converter.convertFileNamed`, `Converter.convertFile`: converts one file into another
- `Converter.writeOutput`: writes lines that are converted already
-/

namespace CommentSwitch

open FileAction

namespace FileSystem

/-- Whether two paths stand for one file: they are written alike, or lead to one place. -/
def isSameFile (fs : FileSystem) (p q : Path) : Bool := p.isSame q || fs.isSamePlace p q

end FileSystem

namespace FileAction

/-- Writes lines into a file, in a directory that is created if it is missing. -/
def writeLines (output : Path) (lines : List Text) : FileAction FileFault Unit := do
  output.holder?.forM createAll
  replace output (FileSystem.bytesOf (Text.unlines lines))

/-- Creates the directory for a file if it is missing. -/
def createHolder (output : Path) : FileAction Failure Unit :=
  output.holder?.forM fun directory =>
    orElse (createAll directory) fun _ => .directoryNotCreated directory

/-- Copies a file as it is because of a fault; a file is not copied onto itself. -/
def copyUnchanged (input output : Path) (fault : FileFault) : FileAction Failure FileReport := do
  if !(← ask (·.isSameFile input output)) then
    createHolder output
    orElse (copy input output) fun _ => .fileNotCopied input output
  return ⟨input, output, .copied fault.text⟩

end FileAction

namespace Converter

/-- Writes lines that are converted already. -/
def writeOutput (output : Path) (lines : List Text) : FileAction Failure Unit :=
  orElse (writeLines output lines) fun _ => .fileNotWritten output

/-- Converts a file that goes by the given name. -/
def convertFileNamed (c : Converter) (name : Option Text) (input output : Path) :
    FileAction Failure FileReport := do
  match ← ask (·.textAt input) with
  | .error fault => copyUnchanged input output fault
  | .ok content =>
    let lines := Text.lines content
    match c.convertLines name lines with
    -- Faulty directives stop the run; such a file is not copied.
    | .error d => throw (.directives d)
    | .ok converted =>
      match ← attempt (writeLines output converted) with
      -- What can not be written as text is tried once more as a copy.
      | .error fault => copyUnchanged input output fault
      | .ok () => return ⟨input, output, .transformed lines.length converted.length⟩

/-- Converts a file that goes by its own name. -/
def convertFile (c : Converter) (input output : Path) : FileAction Failure FileReport :=
  c.convertFileNamed input.fileName? input output

end Converter

end CommentSwitch
