import CommentSwitch.Text.Blank
import CommentSwitch.Text.Integer

/-!
# Diagnostics

What can be wrong with the directives of a file, and where.  Each cause has its
kind and its wording; the place is added when it is known.

- `Diagnostic.message`: the text shown to the user
- `Diagnostic.fileSuffix_of_blank`: a blank file name is not mentioned
-/

namespace CommentSwitch

/-! ## §1 Causes -/

/-- The three kinds of faults in directives. -/
inductive FaultKind
  /-- Directives that do not nest. -/
  | structural
  /-- A directive that is not written as it should be. -/
  | syntactic
  /-- A condition that has no value. -/
  | evaluation
  deriving DecidableEq, Repr

/-- What is wrong with a directive. -/
inductive Fault
  /-- An `elseif` outside of any block. -/
  | elseifOutside
  /-- An `elseif` in a block that already has an `else`. -/
  | elseifAfterElse
  /-- An `else` outside of any block. -/
  | elseOutside
  /-- An `endif` outside of any block. -/
  | endifOutside
  /-- The lines end inside a block. -/
  | endifMissing
  /-- No space between a keyword and its condition. -/
  | spaceMissing
  /-- An operand of a comparison that is no integer; the text is the resolved operand. -/
  | notInteger (operand : Text)
  /-- A fault in words of its own. -/
  | other (kind : FaultKind) (text : Text)
  deriving DecidableEq, Repr

namespace Fault

/-- The kind of a fault. -/
def kind : Fault → FaultKind
  | elseifOutside | elseifAfterElse | elseOutside | endifOutside | endifMissing => .structural
  | spaceMissing => .syntactic
  | notInteger _ => .evaluation
  | other kind _ => kind

/-- The wording of a fault. -/
def text : Fault → Text
  | elseifOutside => Text.ofString "elseif without if"
  | elseifAfterElse => Text.ofString "elseif after else"
  | elseOutside => Text.ofString "Unexpected else"
  | endifOutside => Text.ofString "endif without if"
  | endifMissing => Text.ofString "Missing endif"
  | spaceMissing => Text.ofString "Expected space before condition"
  | notInteger operand => Text.ofString "For input string: \"" ++ operand ++ ['"']
  | other _ text => text

end Fault

/-! ## §2 Places -/

/-- A place in the input: a line, counted from one, and the name of a file. -/
structure Place where
  line : Option Nat
  file : Option Text
  deriving DecidableEq, Repr

/-- No place at all. -/
def Place.unknown : Place := ⟨none, none⟩

/-- A fault together with its place. -/
structure Diagnostic where
  fault : Fault
  place : Place
  deriving DecidableEq, Repr

namespace Diagnostic

/-- The kind of the fault. -/
def kind (d : Diagnostic) : FaultKind := d.fault.kind

/-- How a line is mentioned. -/
def lineSuffix : Option Nat → Text
  | none => []
  | some n => Text.ofString " In line: " ++ Text.ofNat n

/-- How a file is mentioned; one whose name is blank is not. -/
def fileSuffix : Option Text → Text
  | none => []
  | some name =>
    if (Text.trim name).isEmpty then [] else Text.ofString " of file: " ++ name

/-- The text shown to the user. -/
def message (d : Diagnostic) : Text :=
  d.fault.text ++ lineSuffix d.place.line ++ fileSuffix d.place.file

/-- A file name that is blank throughout is not mentioned. -/
theorem fileSuffix_of_blank {name : Text} (h : ∀ c ∈ name, Text.isBlank c = true) :
    fileSuffix (some name) = [] := by
  simp [fileSuffix, Text.trim_eq_nil_iff.2 h]

end Diagnostic

end CommentSwitch
