import CommentSwitch.CommandLine.Options

/-!
# Arguments

The words of a command line, read from left to right: options with their values, the name
of a command, and operands.  Reading ends at the first word that makes no sense, or that
asks for something else than a run.

- `Word.ofText`: what kind of word a text is
- `Given.read`: the options and operands of a place
-/

namespace CommentSwitch

namespace CommandLine

/-! ## §1 Words -/

/-- The kinds of words. -/
inductive Word
  /-- Two dashes: only operands follow. -/
  | ending
  | long (name : Text) (value : Option Text)
  /-- Letters behind a dash. -/
  | letters (letters : Text)
  | plain (t : Text)
  deriving DecidableEq, Repr

/-- What kind of word a text is; a dash on its own is a plain one. -/
def Word.ofText : Text → Word
  | ['-', '-'] => ending
  | '-' :: '-' :: rest =>
    match Text.cutOnce? '=' rest with
    | some (name, value) => long name (some value)
    | none => long rest none
  | '-' :: c :: rest => letters (c :: rest)
  | t => plain t

/-- Why the words of a command line ask for no run. -/
inductive Stop
  /-- They make no sense. -/
  | misuse
  | help
  | version
  deriving DecidableEq, Repr

/-! ## §2 What is given in a place -/

/-- The options with their values and the operands that are given in a place. -/
structure Given where
  options : List (OptionName × Text)
  operands : List Text
  deriving DecidableEq, Repr

namespace Given

/-- Nothing is given. -/
def nothing : Given := ⟨[], []⟩

/-- The values of an option, in order. -/
def values (g : Given) (o : OptionName) : List Text :=
  g.options.filterMap fun e => if e.1 = o then some e.2 else none

/-- Whether an option is given. -/
def has (g : Given) (o : OptionName) : Bool := !(g.values o).isEmpty

/-- Adds an option with its value, which is empty if the option asks for nothing. -/
def add (g : Given) (o : OptionName) (value : Text) : Except Stop Given :=
  if !o.asksFor.accepts value then .error .misuse
  else
    match o with
    | .help => .error .help
    | .version => .error .version
    | _ =>
      -- Most options can be given only once in a place.
      if g.has o ∧ !o.isRepeatable then .error .misuse
      else .ok { g with options := g.options ++ [(o, value)] }

/-- Adds an operand, which is a path. -/
def addOperand (g : Given) (level : Level) (t : Text) : Except Stop Given :=
  if level.hasRoom g.operands.length ∧ !t.isEmpty then
    .ok { g with operands := g.operands ++ [t] }
  else .error .misuse

/-- Adds operands. -/
def addOperands (g : Given) (level : Level) (ts : List Text) : Except Stop Given :=
  ts.foldlM (fun g t => g.addOperand level t) g

/-- Reads letters.  The first one whose option asks for something takes the rest as the
value, without an equals sign in front; if there is no rest, the option waits for the next
word. -/
def readLetters (level : Level) (g : Given) : Text → Except Stop (Given × Option OptionName)
  | [] => .ok (g, none)
  | c :: rest =>
    match OptionName.ofLetter? level c with
    | none => .error .misuse
    | some o =>
      if o.takesValue then
        match rest with
        | [] => .ok (g, some o)
        -- An equals sign between the letter and its value is not part of it.
        | '=' :: value => do return (← g.add o value, none)
        | value => do return (← g.add o value, none)
      else do readLetters level (← g.add o []) rest

/-- Reads an option that is written as a word, with the value that is attached to it. -/
def readLong (level : Level) (g : Given) (name : Text) (value : Option Text) :
    Except Stop (Given × Option OptionName) :=
  match OptionName.ofWord? level name, value with
  | none, _ => .error .misuse
  | some o, some value =>
    if o.takesValue then do return (← g.add o value, none) else .error .misuse
  | some o, none => if o.takesValue then .ok (g, some o) else do return (← g.add o [], none)

/-- A command with the words behind it. -/
structure Call where
  command : CommandName
  words : List Text

/-- Reads the words of a place.  Before any command, the first plain word names one; an
option that waits takes any plain word. -/
def read (level : Level) (g : Given) (waiting : Option OptionName) :
    List Text → Except Stop (Given × Option Call)
  | [] => if waiting.isSome then .error .misuse else .ok (g, none)
  | t :: words =>
    match waiting, Word.ofText t with
    | some o, .plain value => do read level (← g.add o value) none words
    -- A value never starts with a dash, unless it is a dash.
    | some _, _ => .error .misuse
    -- Behind two dashes every word is an operand.
    | none, .ending => do return (← g.addOperands level words, none)
    | none, .long name value => do
      let (g, waiting) ← readLong level g name value
      read level g waiting words
    | none, .letters letters => do
      let (g, waiting) ← readLetters level g letters
      read level g waiting words
    | none, .plain t =>
      match level, CommandName.ofWord? t with
      -- The words behind the name of a command belong to it.
      | none, some command => .ok (g, some ⟨command, words⟩)
      | none, none => .error (if t = "help".toList then askedFor words else .misuse)
      | some _, _ => do read level (← g.addOperand level t) none words
where
  /-- What the words behind a call for help ask for. -/
  askedFor : List Text → Stop
    | [] => .help
    | [t] =>
      if (CommandName.ofWord? t).isSome ∨ t = "help".toList then .help else .misuse
    | _ => .misuse

end Given

end CommandLine

end CommentSwitch
