import CommentSwitch.Proofs.Conversion.Run
import CommentSwitch.Proofs.Conversion.TaggedLine

/-!
# Passes over a file

A conversion that leaves no line out turns each line into one line, so its output can
be converted again, under other variables and as often as one likes.

- `Conversion.keptLine_cases`: the three ways in which a line is kept
- `Conversion.outputLine_eq`: stripping decides only whether a line is kept
- `Conversion.run_plain_cons_iff`: a run that leaves no line out, line by line
- `Conversion.passes_induction`: what each pass keeps, all passes together keep
-/

namespace CommentSwitch

namespace Conversion

/-! ## §1 Lines that are kept -/

/-- What becomes of a line when no line is left out. -/
def keptLine (k : Keywords) (stack : BlockStack) (line : Text) : Text :=
  if k.classify (Text.trim line) = .code then
    if stack.isActive then Tag.restore k.evalToken line
    else Tag.comment k.evalToken stack.indent line
  else line

theorem keptLine_of_directive {k : Keywords} {stack : BlockStack} {line : Text}
    (hdirective : k.classify (Text.trim line) ≠ .code) : keptLine k stack line = line :=
  if_neg hdirective

theorem keptLine_of_active {k : Keywords} {stack : BlockStack} {line : Text}
    (hcode : k.classify (Text.trim line) = .code) (hactive : stack.isActive = true) :
    keptLine k stack line = Tag.restore k.evalToken line := by
  rw [keptLine, if_pos hcode, if_pos hactive]

theorem keptLine_of_inactive {k : Keywords} {stack : BlockStack} {line : Text}
    (hcode : k.classify (Text.trim line) = .code) (hactive : stack.isActive = false) :
    keptLine k stack line = Tag.comment k.evalToken stack.indent line := by
  rw [keptLine, if_pos hcode, if_neg (by simp [hactive])]

/-- A line is kept as a directive, as an active line of code or as an inactive one. -/
theorem keptLine_cases (k : Keywords) (stack : BlockStack) (line : Text) :
    (k.classify (Text.trim line) ≠ .code ∧ keptLine k stack line = line) ∨
    (k.classify (Text.trim line) = .code ∧ stack.isActive = true ∧
      keptLine k stack line = Tag.restore k.evalToken line) ∨
    (k.classify (Text.trim line) = .code ∧ stack.isActive = false ∧
      keptLine k stack line = Tag.comment k.evalToken stack.indent line) := by
  by_cases hcode : k.classify (Text.trim line) = .code
  · cases hactive : stack.isActive with
    | true => exact .inr (.inl ⟨hcode, rfl, keptLine_of_active hcode hactive⟩)
    | false => exact .inr (.inr ⟨hcode, rfl, keptLine_of_inactive hcode hactive⟩)
  · exact .inl ⟨hcode, keptLine_of_directive hcode⟩

/-- Whether a line is kept: when stripping, only an active line of code is. -/
def keeps (k : Keywords) (strip : Bool) (stack : BlockStack) (line : Text) : Bool :=
  !strip || (decide (k.classify (Text.trim line) = .code) && stack.isActive)

/-- A line is left out, or becomes what it becomes when none is left out. -/
theorem outputLine_eq (k : Keywords) (strip : Bool) (stack : BlockStack) (line : Text) :
    outputLine k strip stack line =
      if keeps k strip stack line then some (keptLine k stack line) else none := by
  unfold outputLine
  split
  · next hcode =>
    rw [codeLine, keeps, hcode]
    cases hactive : stack.isActive with
    | true =>
      rw [keptLine_of_active hcode hactive, Tag.restore]
      cases strip <;> cases Text.startsWith k.evalToken (Text.trim line) <;> rfl
    | false =>
      rw [keptLine_of_inactive hcode hactive]
      cases strip <;> rfl
  · next hdirective =>
    rw [keptLine_of_directive hdirective, keeps, decide_eq_false hdirective]
    cases strip <;> rfl

theorem outputLine_plain (k : Keywords) (stack : BlockStack) (line : Text) :
    outputLine k false stack line = some (keptLine k stack line) :=
  outputLine_eq k false stack line

/-- The first line of a run that leaves no line out, and the run over the others. -/
theorem run_plain_cons_iff {vars : Variables} {k : Keywords} {file : Option Text} {count : Nat}
    {stack last : BlockStack} {line : Text} {rest out : List Text} :
    run vars k false file count stack (line :: rest) = .ok (last, out) ↔
      ∃ after output,
        advance vars ⟨some (count + 1), file⟩ (Text.indentation line) stack
            (k.classify (Text.trim line)) = .ok after ∧
          run vars k false file (count + 1) after rest = .ok (last, output) ∧
            out = keptLine k stack line :: output := by
  rw [run_cons_eq_ok_iff, outputLine_plain]
  rfl

/-! ## §2 Passes -/

/-- The conversion under given variables that leaves no line out. -/
def plain (keywords : KeywordRegistry) (vars : Variables) : Conversion where
  vars := vars
  keywords := keywords
  strip := false

/-- Converts the lines of a file again and again, each time under other variables. -/
def passes (keywords : KeywordRegistry) (file : Option Text) (lines : List Text)
    (sets : List Variables) : Except Diagnostic (List Text) :=
  sets.foldlM (fun lines vars => (plain keywords vars).convert file lines) lines

/-- What each pass keeps, all passes together keep. -/
theorem passes_induction {keywords : KeywordRegistry} {file : Option Text}
    {P : List Text → Prop}
    (hpass : ∀ vars lines out, (plain keywords vars).convert file lines = .ok out →
      P lines → P out)
    {sets : List Variables} {lines out : List Text}
    (h : passes keywords file lines sets = .ok out) (hlines : P lines) : P out := by
  induction sets generalizing lines with
  | nil =>
    cases h
    exact hlines
  | cons vars later ih =>
    rw [passes, List.foldlM_cons, bind_eq_ok_iff] at h
    obtain ⟨mid, hmid, hlater⟩ := h
    exact ih hlater (hpass vars lines mid hmid hlines)

end Conversion

end CommentSwitch
