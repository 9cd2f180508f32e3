import CommentSwitch.Proofs.Condition.Place
import CommentSwitch.Proofs.Conversion.Passes

/-!
# Files behind files

A file that is accepted has closed all its blocks, so it leaves nothing behind for the lines that
follow it.  In front of another file it moves the lines of that one down, and that is all.

- `Conversion.advance_relocate`: the place of a line goes into its diagnostic only
- `Conversion.run_lower`: a run over the same lines further down
- `Conversion.convert_append_eq`: what is converted behind a file that is accepted
- `Conversion.convert_append`: the same for each of the two outcomes
-/

namespace CommentSwitch

/-- The same diagnostic a number of lines further down. -/
def Diagnostic.lower (n : Nat) (d : Diagnostic) : Diagnostic :=
  ⟨d.fault, ⟨d.place.line.map (· + n), d.place.file⟩⟩

namespace Conversion

open Keywords (Directive)

variable {vars : Variables} {k : Keywords} {strip : Bool} {file : Option Text}

/-! ## §1 One line -/

/-- Reading a line at another place changes the place of the diagnostic only. -/
theorem advance_relocate (vars : Variables) (place place' : Place) (indent : Nat)
    (stack : BlockStack) (directive : Directive) :
    advance vars place' indent stack directive =
      (advance vars place indent stack directive).mapError (Diagnostic.relocate place') := by
  cases directive with
  | opening rest =>
    rw [advance, advance, conditionValue_relocate vars place place']
    cases conditionValue vars place rest <;> rfl
  | branch rest =>
    cases stack with
    | nil => rfl
    | cons block outer =>
      show enterBranch vars place' rest indent (block :: outer) = _
      rw [advance, enterBranch, enterBranch, conditionValue_relocate vars place place']
      split
      · rfl
      · split
        · rfl
        · cases conditionValue vars place rest <;> rfl
  | otherwise => cases stack <;> rfl
  | closing => cases stack <;> rfl
  | code => rfl

/-- A diagnostic names the line at which it arises. -/
theorem place_of_advance_eq_error {place : Place} {indent : Nat} {stack : BlockStack}
    {directive : Directive} {d : Diagnostic}
    (h : advance vars place indent stack directive = .error d) : d.place = place := by
  have hsame := advance_relocate vars place place indent stack directive
  rw [h] at hsame
  have hd : d = d.relocate place := Except.error.inj hsame
  rw [hd]
  rfl

/-! ## §2 Runs further down -/

/-- A run over the same lines further down opens the same blocks and puts out the same; only its
diagnostic moves along. -/
theorem run_lower (n count : Nat) (stack : BlockStack) (lines : List Text) :
    run vars k strip file (count + n) stack lines =
      (run vars k strip file count stack lines).mapError (Diagnostic.lower n) := by
  induction lines generalizing count stack with
  | nil => rfl
  | cons line rest ih =>
    have hcount : count + n + 1 = count + 1 + n := by omega
    rw [run, run, step, step, hcount, advance_relocate vars ⟨some (count + 1), file⟩]
    cases hadvance : advance vars ⟨some (count + 1), file⟩ (Text.indentation line) stack
        (k.classify (Text.trim line)) with
    | error d =>
      have hplace : d.place = ⟨some (count + 1), file⟩ := place_of_advance_eq_error hadvance
      have hmoved : d.relocate ⟨some (count + 1 + n), file⟩ = d.lower n := by
        rw [Diagnostic.lower, hplace]
        rfl
      exact congrArg Except.error hmoved
    | ok after =>
      show (run vars k strip file (count + 1 + n) after rest >>= _) = _
      rw [ih]
      cases hrest : run vars k strip file (count + 1) after rest <;>
        simp [hrest, bind, Except.bind, pure, Except.pure, Except.mapError]

/-- The diagnostic of a run names one of its lines. -/
theorem place_of_run_eq_error {count : Nat} {stack : BlockStack} {lines : List Text}
    {d : Diagnostic} (h : run vars k strip file count stack lines = .error d) :
    ∃ n, d.place = ⟨some n, file⟩ := by
  induction lines generalizing count stack with
  | nil => cases h
  | cons line rest ih =>
    rw [run, step, bind_eq_error_iff] at h
    rcases h with hstep | ⟨⟨after, kept⟩, -, hrest⟩
    · rcases bind_eq_error_iff.mp hstep with hadvance | ⟨after, -, hpure⟩
      · exact ⟨count + 1, place_of_advance_eq_error hadvance⟩
      · cases hpure
    · rcases bind_eq_error_iff.mp hrest with hrest | ⟨last, -, hpure⟩
      · exact ih hrest
      · cases hpure

/-! ## §3 Conversions -/

/-- The diagnostic of a conversion names a line, and the file. -/
theorem place_of_convert_eq_error {c : Conversion} {lines : List Text} {d : Diagnostic}
    (h : c.convert file lines = .error d) : ∃ n, d.place = ⟨some n, file⟩ := by
  rw [convert, convertLines, convertFrom_eq_run, bind_eq_error_iff] at h
  rcases h with hrun | ⟨⟨last, output⟩, -, hlast⟩
  · exact place_of_run_eq_error hrun
  · -- Blocks are open at the end.
    cases last with
    | nil => cases hlast
    | cons block outer =>
      cases hlast
      exact ⟨_, rfl⟩

/-- Behind a file that is accepted another one is converted as if it stood alone. -/
theorem convert_append_eq {c : Conversion} {first output : List Text}
    (h : c.convert file first = .ok output) (second : List Text) :
    c.convert file (first ++ second) =
      ((c.convert file second).mapError (Diagnostic.lower first.length)).map (output ++ ·) := by
  have hfirst := convert_eq_ok_iff.mp h
  have hlength : 0 + (first ++ second).length = 0 + second.length + first.length := by
    rw [List.length_append]
    omega
  -- The blocks of the first file are closed, so the second one starts from none.
  rw [convert, convert, convertLines, convertLines, convertFrom_eq_run, convertFrom_eq_run,
    run_append, hfirst, hlength]
  show ((run _ _ _ _ (0 + first.length) [] second >>= _) >>= _) = _
  rw [run_lower]
  cases hsecond : run c.vars (c.keywords.forFile file) c.strip file 0 [] second with
  | error d => rfl
  | ok last =>
    obtain ⟨last, more⟩ := last
    cases last <;> rfl

/-- **A file that is accepted composes with any file behind it**: the outputs are put together if
the other one is accepted as well, and if it is refused, so are both together, with the same
diagnostic as many lines further down as the first file has. -/
theorem convert_append {c : Conversion} {first output : List Text}
    (h : c.convert file first = .ok output) (second : List Text) :
    (∀ more, c.convert file second = .ok more →
      c.convert file (first ++ second) = .ok (output ++ more)) ∧
    ∀ d, c.convert file second = .error d →
      ∃ n, d.place = ⟨some n, file⟩ ∧
        c.convert file (first ++ second) =
          .error ⟨d.fault, ⟨some (n + first.length), file⟩⟩ := by
  have happend := convert_append_eq h second
  constructor
  · intro more hsecond
    rw [happend, hsecond]
    rfl
  · intro d hsecond
    obtain ⟨n, hplace⟩ := place_of_convert_eq_error hsecond
    refine ⟨n, hplace, ?_⟩
    rw [happend, hsecond]
    show Except.error (d.lower first.length) = _
    rw [Diagnostic.lower, hplace]
    rfl

/-- A block with both branches. -/
def closedBlock : List Text :=
  [Text.ofString "//#if a", Text.ofString "  one", Text.ofString "//#else", Text.ofString "  two",
    Text.ofString "//#endif"]

/-- Behind this block a line of code is kept, and a block that is not closed is noticed at the last
line of both. -/
theorem convert_closedBlock_append :
    (plain Dictionary.empty Dictionary.empty).convert none closedBlock =
        .ok [Text.ofString "//#if a", Text.ofString "//$$   one", Text.ofString "//#else",
          Text.ofString "  two", Text.ofString "//#endif"] ∧
      (plain Dictionary.empty Dictionary.empty).convert none (closedBlock ++ ["x".toList]) =
        .ok [Text.ofString "//#if a", Text.ofString "//$$   one", Text.ofString "//#else",
          Text.ofString "  two", Text.ofString "//#endif", "x".toList] ∧
      (plain Dictionary.empty Dictionary.empty).convert none
          (closedBlock ++ ["x".toList, "//#if a".toList]) =
        .error ⟨.endifMissing, ⟨some 7, none⟩⟩ := by
  have hblock : (plain Dictionary.empty Dictionary.empty).convert none closedBlock =
      .ok [Text.ofString "//#if a", Text.ofString "//$$   one", Text.ofString "//#else",
        Text.ofString "  two", Text.ofString "//#endif"] := by decide +kernel
  have hcode : (plain Dictionary.empty Dictionary.empty).convert none ["x".toList] =
      .ok ["x".toList] := by decide +kernel
  have hopen : (plain Dictionary.empty Dictionary.empty).convert none
      ["x".toList, "//#if a".toList] = .error ⟨.endifMissing, ⟨some 2, none⟩⟩ := by decide +kernel
  refine ⟨hblock, (convert_append hblock _).1 _ hcode, ?_⟩
  obtain ⟨n, hplace, hrefused⟩ := (convert_append hblock _).2 _ hopen
  cases hplace
  exact hrefused

end Conversion

end CommentSwitch
