import CommentSwitch.Text.Basic

/-!
# Options

The options of the command line, what each asks for, and where it can be given: before
the name of a command, or behind it.

- `OptionName`: the options, with their names
- `OptionName.isAllowed`: where an option can be given
- `ValueKind.accepts`: which texts an option takes
-/

namespace CommentSwitch

namespace CommandLine

/-! ## §1 Commands -/

/-- The commands. -/
inductive CommandName
  | process | apply | convert
  deriving DecidableEq, Repr

namespace CommandName

/-- The word for a command. -/
def word : CommandName → Text
  | process => "process".toList
  | apply => "apply".toList
  | convert => "convert".toList

/-- All commands. -/
def all : List CommandName := [process, apply, convert]

/-- The command that a word stands for. -/
def ofWord? (w : Text) : Option CommandName := all.find? fun c => c.word = w

end CommandName

/-- Where words stand: behind the name of a command, or before any. -/
abbrev Level := Option CommandName

/-- Whether one more operand can follow `n` of them. -/
def Level.hasRoom (level : Level) (n : Nat) : Bool :=
  match level with
  | none => false
  | some .convert => n = 0
  | some _ => true

/-! ## §2 Options -/

/-- What an option asks for. -/
inductive ValueKind
  | nothing
  | text
  /-- The name of a file or a directory, which is not empty. -/
  | path
  /-- The name of a report format. -/
  | format
  deriving DecidableEq, Repr

/-- The report formats. -/
inductive Format
  | human | json
  deriving DecidableEq, Repr

/-- The format of a name. -/
def Format.ofName? (name : Text) : Option Format :=
  if name = "human".toList then some human
  else if name = "json".toList then some json
  else none

/-- Whether an option takes a text. -/
def ValueKind.accepts : ValueKind → Text → Bool
  | nothing, t => t.isEmpty
  | text, _ => true
  | path, t => !t.isEmpty
  | format, t => (Format.ofName? t).isSome

/-- The options. -/
inductive OptionName
  | config | var | remap | removeComments | format | quiet | verbose
  | showConfig | version | help
  | target | output | name
  deriving DecidableEq, Repr

namespace OptionName

/-- All options. -/
def all : List OptionName :=
  [config, var, remap, removeComments, format, quiet, verbose, showConfig, version, help,
    target, output, name]

/-- The word for an option. -/
def word : OptionName → Text
  | config => "config".toList
  | var => "var".toList
  | remap => "remap".toList
  | removeComments => "remove-comments".toList
  | format => "format".toList
  | quiet => "quiet".toList
  | verbose => "verbose".toList
  | showConfig => "show-config".toList
  | version => "version".toList
  | help => "help".toList
  | target => "target".toList
  | output => "output".toList
  | name => "name".toList

/-- The letter for an option. -/
def letter? : OptionName → Option Char
  | config => some 'c'
  | format => some 'f'
  | quiet => some 'q'
  | verbose => some 'v'
  | version => some 'V'
  | help => some 'h'
  | target => some 't'
  | output => some 'o'
  | _ => none

/-- What an option asks for. -/
def asksFor : OptionName → ValueKind
  | config | target | output => .path
  | var | remap | name => .text
  | format => .format
  | _ => .nothing

/-- Whether an option asks for anything. -/
def takesValue (o : OptionName) : Bool := o.asksFor ≠ .nothing

/-- Whether an option can be given several times in one place. -/
def isRepeatable : OptionName → Bool
  | var | remap => true
  | _ => false

/-- Whether an option can be given in a place. -/
def isAllowed (level : Level) : OptionName → Bool
  | showConfig | version => level = none
  | target => level = some .process
  | output | name => level = some .convert
  | _ => true

/-- The option of a word. -/
def ofWord? (level : Level) (w : Text) : Option OptionName :=
  all.find? fun o => o.isAllowed level && o.word = w

/-- The option of a letter. -/
def ofLetter? (level : Level) (c : Char) : Option OptionName :=
  all.find? fun o => o.isAllowed level && o.letter? = some c

end OptionName

end CommandLine

end CommentSwitch
