import CommentSwitch.CommandLine.Arguments
import CommentSwitch.Files.Path
import CommentSwitch.Settings
import CommentSwitch.Text.Blank

/-!
# Invocations

What a command line asks for: a command, the settings that it changes, and how the report
is shown.  An option behind the name of a command takes the place of one before it.

- `Invocation.ofWords`: what a command line asks for
- `assignment?`: a name and a value, as they are written in options
- `Overrides.apply`: settings as a command line changes them
-/

namespace CommentSwitch

namespace CommandLine

/-! ## §1 Assignments -/

/-- A name and a value around the first equals sign, both trimmed; none without a name. -/
def assignment? (t : Text) : Option (Text × Text) :=
  match Text.cutOnce? '=' t with
  | none => none
  | some (name, value) =>
    if (Text.trim name).isEmpty then none else some (Text.trim name, Text.trim value)

/-- The assignments of a list between commas. -/
def assignments (t : Text) : List (Text × Text) := (Text.cutAt ',' t).filterMap assignment?

/-! ## §2 Settings -/

/-- The settings that a command line changes. -/
structure Overrides where
  vars : List (Text × Text)
  remap : List (Text × Text)
  removeComments : Bool
  deriving DecidableEq, Repr

/-- Settings as a command line changes them. -/
def Overrides.apply (o : Overrides) (s : Settings) : Settings where
  vars := o.vars.foldl (fun vars e => vars.insert e.1 e.2) s.vars
  keywords := s.keywords
  remap := o.remap.foldl (fun table e => table.insert e.1 e.2) s.remap
  removeComments := if o.removeComments then some true else s.removeComments

/-! ## §3 Commands -/

/-- A command with its operands. -/
inductive Command
  | process (sources : List Path) (target : Path)
  | apply (paths : List Path)
  /-- Converts a single file, to another one or to the standard output. -/
  | convert (input : Path) (output : Option Path) (name : Option Text)
  deriving DecidableEq, Repr

/-- The command of what is given behind its name. -/
def Command.ofGiven (g : Given) : CommandName → Except Stop Command
  | .process =>
    match g.operands, g.values .target with
    | [], _ => .error .misuse
    | sources, [target] => .ok (process (sources.map .ofText) (.ofText target))
    | _, _ => .error .misuse
  | .apply =>
    match g.operands with
    | [] => .error .misuse
    | paths => .ok (apply (paths.map .ofText))
  | .convert =>
    match g.operands with
    | [input] =>
      .ok (convert (.ofText input) ((g.values .output).head?.map .ofText)
        (g.values .name).head?)
    | _ => .error .misuse

/-! ## §4 Invocations -/

/-- What a command line asks for. -/
structure Invocation where
  config : Option Path
  overrides : Overrides
  format : Format
  quiet : Bool
  /-- Whether the settings are shown instead of a run. -/
  showConfig : Bool
  command : Option Command
  deriving DecidableEq, Repr

namespace Invocation

/-- The values of an option that is given before or behind the name of a command. -/
def values (before behind : Given) (o : OptionName) : List Text :=
  -- Values from both places are never mixed.
  if behind.has o then behind.values o else before.values o

/-- What is asked for by what is given before and behind the name of a command. -/
def ofGiven (before behind : Given) (command : Option Command) : Invocation where
  config := (values before behind .config).head?.map .ofText
  overrides :=
    { vars := (values before behind .var).flatMap assignments
      remap := (values before behind .remap).filterMap assignment?
      removeComments := !(values before behind .removeComments).isEmpty }
  format := ((values before behind .format).head?.bind Format.ofName?).getD .human
  quiet := !(values before behind .quiet).isEmpty
  showConfig := before.has .showConfig
  command := command

/-- What the words of a command line ask for. -/
def ofWords (words : List Text) : Except Stop Invocation := do
  let (before, call) ← Given.read none .nothing none words
  match call with
  | none => return ofGiven before .nothing none
  | some ⟨name, words⟩ =>
    let (behind, _) ← Given.read (some name) .nothing none words
    return ofGiven before behind (some (← Command.ofGiven behind name))

end Invocation

end CommandLine

end CommentSwitch
