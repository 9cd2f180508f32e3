import CommentSwitch.CommandLine.Invocation
import CommentSwitch.Converter.Batch
import CommentSwitch.Report.Summary
import CommentSwitch.Settings.Chain
import CommentSwitch.Settings.Printing

/-!
# Runs

Carries out what a command line asks for: finds the settings, checks them, converts files
and tells what has been done.

- `Command.run`: carries out a command
- `Invocation.run`: carries out an invocation
- `answer`: what a command line leads to
-/

namespace CommentSwitch

namespace CommandLine

open FileAction

/-! ## §1 Faults -/

/-- Why a run fails. -/
inductive RunFault
  | settings (f : SettingsFault)
  | validation (d : Settings.Defect)
  | commandMissing
  | batch (f : Failure)
  | file (f : Failure)
  /-- The standard input is no text. -/
  | inputUnreadable
  | fileUnreadable (p : Path)
  deriving DecidableEq, Repr

namespace RunFault

/-- The wording of a fault. -/
def text : RunFault → Text
  | settings _ => Text.ofString "Failed to load configuration"
  | validation _ => Text.ofString "Invalid configuration"
  | commandMissing => Text.ofString "No command given; try \x60preproc --help\x60"
  | batch _ => Text.ofString "Preprocessing failed"
  | file f => f.text
  | inputUnreadable => Text.ofString "Failed to read stdin"
  | fileUnreadable p => Text.ofString "Failed to read " ++ p.text

/-- What lies behind a fault that is told in general words. -/
def cause? : RunFault → Option Text
  | settings f => some f.text
  | validation d => some d.text
  | batch f => some f.text
  | _ => none

end RunFault

/-! ## §2 Commands -/

/-- The surroundings of a run. -/
structure Surroundings where
  home : Path
  /-- What is read from the standard input. -/
  input : ByteArray

/-- What a command leaves to be shown. -/
inductive Shown
  | text (t : Text)
  | reports (l : List FileReport)
  deriving DecidableEq, Repr

/-- The path that stands for the standard input. -/
def dash : Path := .single ['-']

/-- The name by which a file goes: the given one, or its own. -/
def nameFor (input : Path) (name : Option Text) : Option Text :=
  name.or (if input.isSame dash then none else input.fileName?)

/-- The text of the file to convert, or of the standard input. -/
def textToConvert (surroundings : Surroundings) (input : Path) : FileAction RunFault Text := do
  if input.isSame dash then
    match FileSystem.textOf? surroundings.input with
    | some t => return t
    | none => throw .inputUnreadable
  else
    match ← ask (·.textAt input) with
    | .ok t => return t
    | .error _ => throw (.fileUnreadable input)

/-- Converts a single file.  Only a file that goes to another one is copied if it can not be
converted. -/
def convertSingle (c : Converter) (surroundings : Surroundings) (input : Path)
    (output : Option Path) (name : Option Text) : FileAction RunFault Shown := do
  match input.isSame dash, output with
  | false, some output =>
    let report ← orElse (c.convertFileNamed (nameFor input name) input output) .file
    return .reports [report]
  -- From the standard input, or to the standard output, nothing can be copied.
  | _, output =>
    let lines := Text.lines (← textToConvert surroundings input)
    match c.convertLines (nameFor input name) lines with
    | .error d => throw (.file (.directives d))
    | .ok converted =>
      match output with
      | none => return .text (Text.unlines converted)
      | some output =>
        orElse (Converter.writeOutput output converted) .file
        return .reports [⟨input, output, .transformed lines.length converted.length⟩]

/-- Carries out a command. -/
def Command.run (c : Converter) (surroundings : Surroundings) :
    Command → FileAction RunFault Shown
  | process sources target => do return .reports (← orElse (c.process sources target) .batch)
  | apply paths => do return .reports (← orElse (c.applyInPlace paths) .batch)
  | convert input output name => convertSingle c surroundings input output name

/-! ## §3 Invocations -/

namespace Invocation

/-- The settings of a run, after they have been checked. -/
def settings (i : Invocation) (surroundings : Surroundings) : FileAction RunFault Settings := do
  let found ← orElse (askOr fun fs => Settings.load fs surroundings.home i.config) .settings
  let settings := i.overrides.apply found
  -- The changes of the command line are checked as well.
  match settings.validate with
  | .ok () => return settings
  | .error d => throw (.validation d)

/-- The report on a run, if it is wanted. -/
def report (i : Invocation) (reports : List FileReport) : Text :=
  if i.quiet then []
  else
    match i.format with
    | .human => Report.human false reports ++ ['\n']
    | .json => Report.json reports ++ ['\n']

/-- Carries out an invocation; the result is what it writes to the standard output. -/
def run (i : Invocation) (surroundings : Surroundings) : FileAction RunFault Text := do
  let settings ← i.settings surroundings
  if i.showConfig then
    return Text.ofString "Effective configuration:\n" ++ settings.print ++ ['\n']
  else
    match i.command with
    | none => throw .commandMissing
    | some command =>
      match Converter.ofSettings settings with
      | .error u => throw (.validation (.pattern u))
      | .ok c =>
        match ← command.run c surroundings with
        | .text t => return t
        | .reports reports => return i.report reports

end Invocation

/-! ## §4 Command lines -/

/-- The line that names the version. -/
def versionLine : Text := Text.ofString "preproc 0.1.0\n"

/-- How the commands are called. -/
def usage : Text :=
  Text.ofString "Usage: preproc [OPTIONS] process <SOURCES>... --target <TARGET>\n"
    ++ Text.ofString "       preproc [OPTIONS] apply <PATHS>...\n"
    ++ Text.ofString "       preproc [OPTIONS] convert <INPUT> [--output <OUTPUT>] [--name <NAME>]\n"
    ++ Text.ofString "       preproc [OPTIONS] --show-config\n"

/-- What a command line leads to. -/
inductive Answer
  | output (t : Text)
  | fault (f : RunFault)
  /-- The words of the command line make no sense. -/
  | misuse
  deriving DecidableEq, Repr

/-- The exit code of an answer. -/
def Answer.code : Answer → Nat
  | output _ => 0
  | fault _ => 1
  | misuse => 2

/-- What a command line leads to, with the files as they are then. -/
def answer (words : List Text) (surroundings : Surroundings) (fs : FileSystem) :
    Answer × FileSystem :=
  match Invocation.ofWords words with
  | .error .misuse => (.misuse, fs)
  | .error .help => (.output usage, fs)
  | .error .version => (.output versionLine, fs)
  | .ok i =>
    match (i.run surroundings).runOn fs with
    | (.ok t, fs) => (.output t, fs)
    | (.error f, fs) => (.fault f, fs)

end CommandLine

end CommentSwitch
