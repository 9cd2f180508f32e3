import CommentSwitch.Conversion.Convert

/-!
# Runs of a conversion

Reading lines one after the other takes a stack of open blocks to another one and
puts out lines on the way.  A conversion is such a run from the empty stack that
comes back to it.

- `Conversion.run_append`: a run over two lists is a run over the first and then
  over the second
- `Conversion.convertFrom_eq_run`: a conversion is a run that closes all blocks
- `Conversion.convert_eq_ok_iff`: the same for a conversion that succeeds
-/

namespace CommentSwitch

namespace Conversion

open Keywords (Directive)

theorem bind_eq_ok_iff {ε α β : Type} {x : Except ε α} {f : α → Except ε β} {b : β} :
    x >>= f = .ok b ↔ ∃ a, x = .ok a ∧ f a = .ok b := by
  cases x with
  | error e =>
    constructor
    · intro h; cases h
    · rintro ⟨a, ha, -⟩; cases ha
  | ok a =>
    constructor
    · intro h; exact ⟨a, rfl, h⟩
    · rintro ⟨a', ha, h⟩; cases ha; exact h

theorem bind_eq_error_iff {ε α β : Type} {x : Except ε α} {f : α → Except ε β} {e : ε} :
    x >>= f = .error e ↔ x = .error e ∨ ∃ a, x = .ok a ∧ f a = .error e := by
  cases x with
  | error e' =>
    constructor
    · intro h; cases h; exact .inl rfl
    · rintro (h | ⟨a, ha, -⟩)
      · cases h; rfl
      · cases ha
  | ok a =>
    constructor
    · intro h; exact .inr ⟨a, rfl, h⟩
    · rintro (h | ⟨a', ha, h⟩)
      · cases h
      · cases ha; exact h

/-! ## §1 Runs -/

section Run

variable (vars : Variables) (k : Keywords) (strip : Bool) (file : Option Text)

/-- Reads the lines that follow the first `count` lines of a file: the open blocks
after them, and what becomes of them. -/
def run : Nat → BlockStack → List Text → Except Diagnostic (BlockStack × List Text)
  | _, stack, [] => .ok (stack, [])
  | count, stack, line :: rest => do
    let (after, kept) ← step vars k strip ⟨some (count + 1), file⟩ stack line
    let (last, output) ← run (count + 1) after rest
    return (last, kept.toList ++ output)

variable {vars k strip file}

/-- The first line of a run that succeeds, and the run over the others. -/
theorem run_cons_eq_ok_iff {count : Nat} {stack last : BlockStack} {line : Text}
    {rest out : List Text} :
    run vars k strip file count stack (line :: rest) = .ok (last, out) ↔
      ∃ after output,
        advance vars ⟨some (count + 1), file⟩ (Text.indentation line) stack
            (k.classify (Text.trim line)) = .ok after ∧
          run vars k strip file (count + 1) after rest = .ok (last, output) ∧
            out = (outputLine k strip stack line).toList ++ output := by
  simp only [run, step, bind_eq_ok_iff]
  constructor
  · rintro ⟨_, ⟨after, hafter, hstep⟩, ⟨_, output⟩, hrest, hout⟩
    cases hstep
    cases hout
    exact ⟨after, output, hafter, hrest, rfl⟩
  · rintro ⟨after, output, hafter, hrest, rfl⟩
    exact ⟨_, ⟨after, hafter, rfl⟩, (last, output), hrest, rfl⟩

theorem convertFrom_cons (count : Nat) (stack : BlockStack) (line : Text) (rest : List Text) :
    convertFrom vars k strip file count stack (line :: rest) = (do
      let after ← advance vars ⟨some (count + 1), file⟩ (Text.indentation line) stack
        (k.classify (Text.trim line))
      let output ← convertFrom vars k strip file (count + 1) after rest
      return (outputLine k strip stack line).toList ++ output) := by
  rw [convertFrom, step]
  cases advance vars ⟨some (count + 1), file⟩ (Text.indentation line) stack
    (k.classify (Text.trim line)) <;> rfl

/-- A run over two lists is a run over the first and then over the second. -/
theorem run_append (count : Nat) (stack : BlockStack) (first second : List Text) :
    run vars k strip file count stack (first ++ second) = (do
      let (mid, output) ← run vars k strip file count stack first
      let (last, more) ← run vars k strip file (count + first.length) mid second
      return (last, output ++ more)) := by
  induction first generalizing count stack with
  | nil =>
    rw [List.nil_append, List.length_nil, Nat.add_zero]
    change _ = run vars k strip file count stack second >>= fun p => .ok (p.1, p.2)
    cases run vars k strip file count stack second <;> rfl
  | cons line rest ih =>
    have hcount : count + (line :: rest).length = count + 1 + rest.length := by
      simp only [List.length_cons]; omega
    rw [List.cons_append, hcount, run, run]
    cases step vars k strip ⟨some (count + 1), file⟩ stack line with
    | error d => rfl
    | ok entry =>
      change run vars k strip file (count + 1) entry.1 (rest ++ second) >>= _ = _
      rw [ih]
      cases hrest : run vars k strip file (count + 1) entry.1 rest with
      | error d => simp [bind, Except.bind, hrest]
      | ok mid =>
        cases hsecond : run vars k strip file (count + 1 + rest.length) mid.1 second <;>
          simp [bind, Except.bind, pure, Except.pure, hrest, hsecond]

theorem run_append_of_ok {count : Nat} {stack mid last : BlockStack}
    {first second output more : List Text}
    (hfirst : run vars k strip file count stack first = .ok (mid, output))
    (hsecond : run vars k strip file (count + first.length) mid second = .ok (last, more)) :
    run vars k strip file count stack (first ++ second) = .ok (last, output ++ more) := by
  rw [run_append]
  exact bind_eq_ok_iff.mpr
    ⟨(mid, output), hfirst, bind_eq_ok_iff.mpr ⟨(last, more), hsecond, rfl⟩⟩

theorem run_append_eq_ok_iff {count : Nat} {stack last : BlockStack}
    {first second out : List Text} :
    run vars k strip file count stack (first ++ second) = .ok (last, out) ↔
      ∃ mid output more,
        run vars k strip file count stack first = .ok (mid, output) ∧
          run vars k strip file (count + first.length) mid second = .ok (last, more) ∧
            out = output ++ more := by
  constructor
  · intro h
    rw [run_append, bind_eq_ok_iff] at h
    obtain ⟨⟨mid, output⟩, hfirst, h⟩ := h
    obtain ⟨⟨last', more⟩, hsecond, hout⟩ := bind_eq_ok_iff.mp h
    cases hout
    exact ⟨mid, output, more, hfirst, hsecond, rfl⟩
  · rintro ⟨mid, output, more, hfirst, hsecond, rfl⟩
    exact run_append_of_ok hfirst hsecond

/-- The last line of a run that succeeds, and the run over the others. -/
theorem run_concat_eq_ok_iff {count : Nat} {stack last : BlockStack} {lines : List Text}
    {line : Text} {out : List Text} :
    run vars k strip file count stack (lines ++ [line]) = .ok (last, out) ↔
      ∃ mid output,
        run vars k strip file count stack lines = .ok (mid, output) ∧
          advance vars ⟨some (count + lines.length + 1), file⟩ (Text.indentation line) mid
              (k.classify (Text.trim line)) = .ok last ∧
            out = output ++ (outputLine k strip mid line).toList := by
  rw [run_append_eq_ok_iff]
  constructor
  · rintro ⟨mid, output, more, hlines, hline, rfl⟩
    obtain ⟨after, rest, hafter, hrest, rfl⟩ := run_cons_eq_ok_iff.mp hline
    cases hrest
    exact ⟨mid, output, hlines, hafter, by rw [List.append_nil]⟩
  · rintro ⟨mid, output, hlines, hafter, rfl⟩
    exact ⟨mid, output, _, hlines,
      run_cons_eq_ok_iff.mpr ⟨last, [], hafter, rfl, rfl⟩, by rw [List.append_nil]⟩

/-- A conversion is a run that closes all blocks. -/
theorem convertFrom_eq_run (count : Nat) (stack : BlockStack) (lines : List Text) :
    convertFrom vars k strip file count stack lines = (do
      let (last, output) ← run vars k strip file count stack lines
      if last.isEmpty then return output
      else .error ⟨.endifMissing, ⟨some (count + lines.length), file⟩⟩) := by
  induction lines generalizing count stack with
  | nil => rfl
  | cons line rest ih =>
    have hcount : count + (line :: rest).length = count + 1 + rest.length := by
      simp only [List.length_cons]; omega
    rw [convertFrom, run, hcount]
    cases step vars k strip ⟨some (count + 1), file⟩ stack line with
    | error d => rfl
    | ok entry =>
      change convertFrom vars k strip file (count + 1) entry.1 rest >>= _ = _
      rw [ih]
      cases hrest : run vars k strip file (count + 1) entry.1 rest with
      | error d => simp [bind, Except.bind, hrest]
      | ok last =>
        cases hlast : last.1.isEmpty <;>
          simp [bind, Except.bind, pure, Except.pure, hrest, hlast]

end Run

/-! ## §2 Conversions that succeed -/

/-- A conversion succeeds when its run leaves no block open. -/
theorem convert_eq_ok_iff {c : Conversion} {file : Option Text} {lines out : List Text} :
    c.convert file lines = .ok out ↔
      run c.vars (c.keywords.forFile file) c.strip file 0 [] lines = .ok ([], out) := by
  rw [convert, convertLines, convertFrom_eq_run, bind_eq_ok_iff]
  constructor
  · rintro ⟨⟨last, output⟩, hrun, hout⟩
    cases last with
    | nil => cases hout; exact hrun
    | cons block outer => cases hout
  · intro hrun
    exact ⟨([], out), hrun, rfl⟩

/-- Whether the branch being read behind the lines `before` is selected in every open
block. -/
def ActiveAfter (c : Conversion) (file : Option Text) (before : List Text) : Prop :=
  ∃ stack output,
    run c.vars (c.keywords.forFile file) c.strip file 0 [] before = .ok (stack, output) ∧
      stack.isActive = true

end Conversion

end CommentSwitch
