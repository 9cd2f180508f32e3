import CommentSwitch.Condition
import CommentSwitch.Conversion.BlockStack
import CommentSwitch.Conversion.Tag
import CommentSwitch.Keywords.Registry

/-!
# Conversion of a file

The lines of a file are read once, from the top.  Directive lines open, change and
close blocks; a line of code is switched on or off according to the open blocks.
Directive lines stay in the output, so that a converted file can be converted
again; in stripping mode they and the lines that are switched off are left out.

- `Conversion.step`: what one line does to the open blocks and to the output
- `Conversion.convertLines`: the conversion of all lines with given keywords
- `Conversion.convert`: the same with the keywords of the file
-/

namespace CommentSwitch

/-- What a conversion depends on besides the lines. -/
structure Conversion where
  vars : Variables
  keywords : KeywordRegistry
  /-- Whether directive lines and lines that are switched off are left out. -/
  strip : Bool

namespace Conversion

open Keywords (Directive)

/-! ## §1 Directives -/

/-- The value of the condition that follows an `if` or `elseif` token. -/
def conditionValue (vars : Variables) (place : Place) (rest : Text) :
    Except Diagnostic Bool :=
  -- Only an ordinary space separates the token from the condition.
  if rest.head? = some ' ' then Condition.evaluate vars place (Text.trim rest)
  else .error ⟨.spaceMissing, place⟩

/-- The open blocks after an `elseif` line. -/
def enterBranch (vars : Variables) (place : Place) (rest : Text) (indent : Nat) :
    BlockStack → Except Diagnostic BlockStack
  | [] => .error ⟨.elseifOutside, place⟩
  | block :: outer =>
    if block.elseSeen then .error ⟨.elseifAfterElse, place⟩
    -- Behind a branch that was selected the condition is not even read.
    else if block.everTrue then .ok (block.skipped indent :: outer)
    else do
      let holds ← conditionValue vars place rest
      return .opened holds indent :: outer

/-- The open blocks after an `else` line. -/
def enterOtherwise (place : Place) (indent : Nat) : BlockStack → Except Diagnostic BlockStack
  | [] => .error ⟨.elseOutside, place⟩
  | block :: outer => .ok (block.otherwise indent :: outer)

/-- The open blocks after an `endif` line. -/
def leaveBlock (place : Place) : BlockStack → Except Diagnostic BlockStack
  | [] => .error ⟨.endifOutside, place⟩
  | _ :: outer => .ok outer

/-- The open blocks after a line with the given directive. -/
def advance (vars : Variables) (place : Place) (indent : Nat) (stack : BlockStack) :
    Directive → Except Diagnostic BlockStack
  | .opening rest => do
    let holds ← conditionValue vars place rest
    return .opened holds indent :: stack
  | .branch rest => enterBranch vars place rest indent stack
  | .otherwise => enterOtherwise place indent stack
  | .closing => leaveBlock place stack
  -- A line of code opens and closes nothing.
  | .code => .ok stack

/-! ## §2 Lines -/

/-- What becomes of a line of code; nothing, if it is left out. -/
def codeLine (k : Keywords) (strip : Bool) (stack : BlockStack) (line : Text) :
    Option Text :=
  if stack.isActive then
    -- The tag of an earlier conversion comes off again.
    if Text.startsWith k.evalToken (Text.trim line) then
      some (Tag.uncomment k.evalToken line)
    else some line
  else if strip then none
  else some (Tag.comment k.evalToken stack.indent line)

/-- What becomes of a directive line. -/
def directiveLine (strip : Bool) (line : Text) : Option Text :=
  if strip then none else some line

/-- What becomes of a line, where `stack` holds the blocks that are open before it. -/
def outputLine (k : Keywords) (strip : Bool) (stack : BlockStack) (line : Text) :
    Option Text :=
  match k.classify (Text.trim line) with
  | .code => codeLine k strip stack line
  | _ => directiveLine strip line

/-- Reads one line: the open blocks after it, and what becomes of it. -/
def step (vars : Variables) (k : Keywords) (strip : Bool) (place : Place)
    (stack : BlockStack) (line : Text) : Except Diagnostic (BlockStack × Option Text) := do
  let after ← advance vars place (Text.indentation line) stack (k.classify (Text.trim line))
  return (after, outputLine k strip stack line)

/-! ## §3 Files -/

/-- Reads the lines that follow the first `count` lines of a file. -/
def convertFrom (vars : Variables) (k : Keywords) (strip : Bool) (file : Option Text)
    (count : Nat) (stack : BlockStack) : List Text → Except Diagnostic (List Text)
  | [] =>
    if stack.isEmpty then .ok [] else .error ⟨.endifMissing, ⟨some count, file⟩⟩
  | line :: rest => do
    let (stack, kept) ← step vars k strip ⟨some (count + 1), file⟩ stack line
    let output ← convertFrom vars k strip file (count + 1) stack rest
    return kept.toList ++ output

/-- Converts the lines of a file with given keywords. -/
def convertLines (vars : Variables) (k : Keywords) (strip : Bool) (file : Option Text)
    (lines : List Text) : Except Diagnostic (List Text) :=
  convertFrom vars k strip file 0 [] lines

/-- Converts the lines of a file.  The name of the file selects the keywords and is
mentioned in diagnostics. -/
def convert (c : Conversion) (file : Option Text) (lines : List Text) :
    Except Diagnostic (List Text) :=
  convertLines c.vars (c.keywords.forFile file) c.strip file lines

end Conversion

end CommentSwitch
