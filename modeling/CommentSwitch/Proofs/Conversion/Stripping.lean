import CommentSwitch.Proofs.Conversion.OpenBlocks

/-!
# Stripping

A conversion that strips directives and unselected lines goes along with one that leaves no
line out: it fails on the same files with the same diagnostics, and it puts out what the
other one does with the live lines, which are the lines of code in selected places.

- `Conversion.run_stack_eq`: stripping does not change which blocks are open
- `Conversion.run_strip_of_run_plain`: the output of a run that strips
- `Conversion.convert_strip`: the two conversions agree
-/

namespace CommentSwitch

namespace Conversion

open Nesting

/-! ## §1 Live lines -/

/-- The line with the given index, counted from zero, is a line of code, and every branch
around it is selected. -/
def LiveAt (vars : Variables) (k : Keywords) (lines : List Text) (i : Nat) : Prop :=
  ∃ before line after, lines = before ++ line :: after ∧
    before.length = i ∧ k.classify (Text.trim line) = .code ∧ SelectedPlace vars k before

/-- The indices of the live lines, in order. -/
structure LiveIndices (vars : Variables) (k : Keywords) (lines : List Text)
    (kept : List Nat) : Prop where
  sorted : kept.Pairwise (· < ·)
  mem_iff : ∀ i, i ∈ kept ↔ LiveAt vars k lines i

section Live

variable {vars : Variables} {k : Keywords} {lines : List Text} {line : Text} {kept : List Nat}

theorem LiveAt.lt {i : Nat} (h : LiveAt vars k lines i) : i < lines.length := by
  obtain ⟨before, line, after, rfl, rfl, -⟩ := h
  simp

theorem liveAt_concat_iff {i : Nat} :
    LiveAt vars k (lines ++ [line]) i ↔
      LiveAt vars k lines i ∨
        (lines.length = i ∧ k.classify (Text.trim line) = .code ∧ SelectedPlace vars k lines) :=
  exists_split_concat_iff

theorem liveIndices_nil : LiveIndices vars k [] [] where
  sorted := .nil
  mem_iff i := by
    simp only [List.not_mem_nil, false_iff]
    exact fun h => absurd h.lt (Nat.not_lt_zero i)

theorem LiveIndices.concat_live (h : LiveIndices vars k lines kept)
    (hcode : k.classify (Text.trim line) = .code) (hplace : SelectedPlace vars k lines) :
    LiveIndices vars k (lines ++ [line]) (kept ++ [lines.length]) where
  sorted := by
    refine List.pairwise_append.mpr ⟨h.sorted, List.pairwise_singleton _ _, ?_⟩
    intro i hi j hj
    rw [List.mem_singleton.mp hj]
    exact ((h.mem_iff i).mp hi).lt
  mem_iff i := by
    rw [List.mem_append, List.mem_singleton, liveAt_concat_iff, h.mem_iff]
    simp only [hcode, hplace, and_true, eq_comm]

theorem LiveIndices.concat_dead (h : LiveIndices vars k lines kept)
    (hdead : ¬ (k.classify (Text.trim line) = .code ∧ SelectedPlace vars k lines)) :
    LiveIndices vars k (lines ++ [line]) kept where
  sorted := h.sorted
  mem_iff i := by
    rw [liveAt_concat_iff, h.mem_iff]
    simp only [hdead, and_false, or_false]

/-- What stands behind the last index does not matter. -/
theorem LiveIndices.filterMap_append (h : LiveIndices vars k lines kept) {out : List Text}
    (hlength : out.length = lines.length) (more : List Text) :
    kept.filterMap (fun i => (out ++ more)[i]?) = kept.filterMap (fun i => out[i]?) := by
  refine List.filterMap_congr fun i hi => ?_
  have hlt := ((h.mem_iff i).mp hi).lt
  rw [List.getElem?_append_left (by omega)]

end Live

/-! ## §2 Runs that strip -/

section Run

variable {vars : Variables} {k : Keywords} {file : Option Text}

/-- Stripping does not change which blocks are open, nor what goes wrong. -/
theorem run_stack_eq (strip strip' : Bool) (count : Nat) (stack : BlockStack)
    (lines : List Text) :
    (run vars k strip file count stack lines).map Prod.fst =
      (run vars k strip' file count stack lines).map Prod.fst := by
  induction lines generalizing count stack with
  | nil => rfl
  | cons line rest ih =>
    rw [run, run, step, step]
    cases advance vars ⟨some (count + 1), file⟩ (Text.indentation line) stack
      (k.classify (Text.trim line)) with
    | error d => rfl
    | ok after =>
      have hrest := ih (count + 1) after
      cases h : run vars k strip file (count + 1) after rest <;>
        cases h' : run vars k strip' file (count + 1) after rest <;>
        simp_all [Except.map, bind, Except.bind, pure, Except.pure]

/-- A run that strips puts out the live lines of a run that leaves no line out. -/
theorem run_strip_of_run_plain {lines out : List Text} {stack : BlockStack}
    (h : run vars k false file 0 [] lines = .ok (stack, out)) :
    out.length = lines.length ∧ ∃ kept, LiveIndices vars k lines kept ∧
      run vars k true file 0 [] lines = .ok (stack, kept.filterMap (fun i => out[i]?)) := by
  induction lines using List.reverseRecOn generalizing stack out with
  | nil =>
    cases h
    exact ⟨rfl, [], liveIndices_nil, rfl⟩
  | append_singleton lines line ih =>
    obtain ⟨mid, output, hlines, hafter, rfl⟩ := run_concat_eq_ok_iff.mp h
    obtain ⟨hlength, kept, hkept, hstrip⟩ := ih hlines
    rw [outputLine_plain, Option.toList_some]
    refine ⟨by simp [hlength], ?_⟩
    have hrun := run_concat_eq_ok_iff.mpr ⟨mid, _, hstrip, hafter, rfl⟩
    rw [hrun, outputLine_eq]
    by_cases hlive : k.classify (Text.trim line) = .code ∧ SelectedPlace vars k lines
    · have hactive := (isActive_iff hlines).mpr hlive.2
      refine ⟨_, hkept.concat_live hlive.1 hlive.2, ?_⟩
      simp [keeps, hlive.1, hactive, hkept.filterMap_append hlength, ← hlength]
    · refine ⟨_, hkept.concat_dead hlive, ?_⟩
      rw [← isActive_iff hlines] at hlive
      simp [keeps, hlive, hkept.filterMap_append hlength]

end Run

/-! ## §3 Conversions -/

/-- Whether a conversion fails depends on the open blocks alone. -/
theorem convert_eq_error_iff {c : Conversion} {file : Option Text} {lines : List Text}
    {d : Diagnostic} :
    c.convert file lines = .error d ↔
      (do
        let last ← (run c.vars (c.keywords.forFile file) c.strip file 0 [] lines).map Prod.fst
        if last.isEmpty then return ()
        else .error ⟨.endifMissing, ⟨some lines.length, file⟩⟩) = .error d := by
  rw [convert, convertLines, convertFrom_eq_run, Nat.zero_add]
  cases run c.vars (c.keywords.forFile file) c.strip file 0 [] lines with
  | error e => simp [Except.map, bind, Except.bind]
  | ok p => cases h : p.1.isEmpty <;> simp [Except.map, bind, Except.bind, pure, Except.pure, h]

/-- **Stripping only leaves lines out**: with and without it, a conversion fails on the same
files with the same diagnostics, and where it succeeds, stripping puts out the live ones
among the lines that are put out otherwise. -/
theorem convert_strip (vars : Variables) (keywords : KeywordRegistry) (file : Option Text)
    (lines : List Text) :
    (∀ d, convert ⟨vars, keywords, true⟩ file lines = .error d ↔
      convert ⟨vars, keywords, false⟩ file lines = .error d) ∧
    ∀ out, convert ⟨vars, keywords, false⟩ file lines = .ok out →
      out.length = lines.length ∧
      ∃ kept, LiveIndices vars (keywords.forFile file) lines kept ∧
        convert ⟨vars, keywords, true⟩ file lines = .ok (kept.filterMap (fun i => out[i]?)) := by
  constructor
  · intro d
    rw [convert_eq_error_iff, convert_eq_error_iff, run_stack_eq true false]
  · intro out h
    obtain ⟨hlength, kept, hkept, hstrip⟩ := run_strip_of_run_plain (convert_eq_ok_iff.mp h)
    exact ⟨hlength, kept, hkept, convert_eq_ok_iff.mpr hstrip⟩

end Conversion

end CommentSwitch
