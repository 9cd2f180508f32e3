import CommentSwitch.Proofs.Conversion.Stripping
import Mathlib.Data.Set.Card

/-!
# Lines that are left out

How many lines a conversion leaves out, told from the lines alone: when it strips these are the
directive lines and the lines of code in branches that are not selected, and none otherwise.

- `Conversion.leftOut`: the number of these lines
- `Conversion.length_add_leftOut`: what is put out and what is left out are all lines
-/

namespace CommentSwitch

namespace Conversion

open Nesting

section Count

variable {vars : Variables} {k : Keywords} {lines : List Text} {line : Text}

/-- The line with the given index, counted from zero, is a line of code, and a branch around it
is not selected. -/
def UnselectedAt (vars : Variables) (k : Keywords) (lines : List Text) (i : Nat) : Prop :=
  ∃ before line after, lines = before ++ line :: after ∧
    before.length = i ∧ k.classify (Text.trim line) = .code ∧ ¬ SelectedPlace vars k before

/-- The number of directive lines. -/
def directiveLines (k : Keywords) (lines : List Text) : Nat :=
  lines.countP fun line => k.classify (Text.trim line) ≠ .code

/-- The number of lines of code in places that are not selected. -/
noncomputable def unselectedLines (vars : Variables) (k : Keywords) (lines : List Text) : Nat :=
  {i | UnselectedAt vars k lines i}.ncard

/-- The number of lines that stripping leaves out. -/
noncomputable def strippedLines (vars : Variables) (k : Keywords) (lines : List Text) : Nat :=
  directiveLines k lines + unselectedLines vars k lines

/-- The number of lines that a conversion leaves out. -/
noncomputable def leftOut (c : Conversion) (file : Option Text) (lines : List Text) : Nat :=
  if c.strip then strippedLines c.vars (c.keywords.forFile file) lines else 0

theorem UnselectedAt.lt {i : Nat} (h : UnselectedAt vars k lines i) : i < lines.length := by
  obtain ⟨before, line, after, rfl, rfl, -⟩ := h
  simp

theorem unselectedAt_concat_iff {i : Nat} :
    UnselectedAt vars k (lines ++ [line]) i ↔
      UnselectedAt vars k lines i ∨
        (lines.length = i ∧ k.classify (Text.trim line) = .code ∧ ¬ SelectedPlace vars k lines) :=
  exists_split_concat_iff

theorem strippedLines_nil : strippedLines vars k [] = 0 := by
  have hnone : {i | UnselectedAt vars k [] i} = ∅ := by
    ext i
    simp only [Set.mem_ofPred_eq, Set.mem_empty_iff_false, iff_false]
    exact fun h => absurd h.lt (Nat.not_lt_zero i)
  rw [strippedLines, unselectedLines, hnone, Set.ncard_empty, directiveLines, List.countP_nil]

theorem unselectedLines_concat_of_unselected (hcode : k.classify (Text.trim line) = .code)
    (hplace : ¬ SelectedPlace vars k lines) :
    unselectedLines vars k (lines ++ [line]) = unselectedLines vars k lines + 1 := by
  have hset : {i | UnselectedAt vars k (lines ++ [line]) i} =
      insert lines.length {i | UnselectedAt vars k lines i} := by
    ext i
    simp only [Set.mem_ofPred_eq, Set.mem_insert_iff, unselectedAt_concat_iff, hcode, hplace,
      not_false_eq_true, and_self, and_true]
    rw [or_comm, eq_comm]
  have hnew : lines.length ∉ {i | UnselectedAt vars k lines i} :=
    fun h => absurd h.lt (Nat.lt_irrefl _)
  have hfinite : {i | UnselectedAt vars k lines i}.Finite :=
    (Set.finite_lt_nat lines.length).subset fun i hi => hi.lt
  rw [unselectedLines, hset, Set.ncard_insert_of_notMem hnew hfinite, unselectedLines]

theorem unselectedLines_concat_of_not
    (hnot : ¬ (k.classify (Text.trim line) = .code ∧ ¬ SelectedPlace vars k lines)) :
    unselectedLines vars k (lines ++ [line]) = unselectedLines vars k lines := by
  have hset : {i | UnselectedAt vars k (lines ++ [line]) i} =
      {i | UnselectedAt vars k lines i} := by
    ext i
    simp only [Set.mem_ofPred_eq, unselectedAt_concat_iff, hnot, and_false, or_false]
  rw [unselectedLines, hset, unselectedLines]

theorem directiveLines_concat (k : Keywords) (lines : List Text) (line : Text) :
    directiveLines k (lines ++ [line]) =
      directiveLines k lines + if k.classify (Text.trim line) = .code then 0 else 1 := by
  rw [directiveLines, List.countP_append, List.countP_singleton, directiveLines]
  by_cases hcode : k.classify (Text.trim line) = .code <;> simp [hcode]

/-- A live line is not left out. -/
theorem strippedLines_concat_live
    (hlive : k.classify (Text.trim line) = .code ∧ SelectedPlace vars k lines) :
    strippedLines vars k (lines ++ [line]) = strippedLines vars k lines := by
  rw [strippedLines, directiveLines_concat, if_pos hlive.1, Nat.add_zero,
    unselectedLines_concat_of_not fun hnot => hnot.2 hlive.2, strippedLines]

/-- Every other line is left out, and it is counted once. -/
theorem strippedLines_concat_dead
    (hdead : ¬ (k.classify (Text.trim line) = .code ∧ SelectedPlace vars k lines)) :
    strippedLines vars k (lines ++ [line]) = strippedLines vars k lines + 1 := by
  rw [strippedLines, directiveLines_concat, strippedLines]
  by_cases hcode : k.classify (Text.trim line) = .code
  · have hplace : ¬ SelectedPlace vars k lines := fun hplace => hdead ⟨hcode, hplace⟩
    rw [if_pos hcode, unselectedLines_concat_of_unselected hcode hplace]
    omega
  · rw [if_neg hcode, unselectedLines_concat_of_not fun hnot => hcode hnot.1]
    omega

end Count

/-- A run puts out every line, or every line but those that stripping leaves out. -/
theorem length_run {vars : Variables} {k : Keywords} {strip : Bool} {file : Option Text}
    {lines out : List Text} {stack : BlockStack}
    (h : run vars k strip file 0 [] lines = .ok (stack, out)) :
    out.length + (if strip then strippedLines vars k lines else 0) = lines.length := by
  induction lines using List.reverseRecOn generalizing stack out with
  | nil =>
    cases h
    simp [strippedLines_nil]
  | append_singleton lines line ih =>
    obtain ⟨mid, output, hlines, -, rfl⟩ := run_concat_eq_ok_iff.mp h
    have hlength := ih hlines
    rw [outputLine_eq, List.length_append, List.length_append, List.length_singleton, ← hlength]
    cases strip with
    | false => simp [keeps]
    | true =>
      have hkeeps : keeps k true mid line = true ↔
          k.classify (Text.trim line) = .code ∧ SelectedPlace vars k lines := by
        simp [keeps, isActive_iff hlines]
      by_cases hlive : k.classify (Text.trim line) = .code ∧ SelectedPlace vars k lines
      · rw [if_pos (hkeeps.mpr hlive), strippedLines_concat_live hlive, Option.toList_some,
          List.length_singleton]
        simp only [↓reduceIte]
        omega
      · rw [if_neg (mt hkeeps.mp hlive), strippedLines_concat_dead hlive, Option.toList_none,
          List.length_nil]
        simp only [↓reduceIte]
        omega

/-- What a conversion puts out and what it leaves out are all lines together. -/
theorem length_add_leftOut {c : Conversion} {file : Option Text} {lines out : List Text}
    (h : c.convert file lines = .ok out) : out.length + c.leftOut file lines = lines.length :=
  length_run (convert_eq_ok_iff.mp h)

end Conversion

end CommentSwitch
