import CommentSwitch.Proofs.Conversion.OpenBlocks

/-!
# Files that are refused

A conversion refuses a file for its first line that offends, or for blocks that stay open
at the end, and for nothing else.  Whether a line offends is told from the lines in front
of it; it does not matter whether they are selected.

- `Conversion.Offends`: the offences, each with its kind and its fault
- `Conversion.advance_eq_error_iff`: reading a line fails when it offends
- `Conversion.run_eq_ok_iff_clean`, `Conversion.run_eq_error_of_offends`: a run fails at the
  first line that offends
- `Conversion.convert_refuses_iff`: which files are refused, and with which diagnostic
-/

namespace CommentSwitch

namespace Conversion

open Nesting
open Keywords (Directive)

/-! ## §1 Offences -/

/-- What can be wrong with the text behind an `if` or `elseif` token. -/
inductive FaultyCondition (vars : Variables) (rest : Text) : FaultKind → Fault → Prop
  | spaceMissing (hspace : rest.head? ≠ some ' ') :
      FaultyCondition vars rest .syntactic .spaceMissing
  | noValue {d : Diagnostic} (hspace : rest.head? = some ' ')
      (hvalue : Condition.evaluate vars .unknown (Text.trim rest) = .error d) :
      FaultyCondition vars rest .evaluation d.fault

/-- A line that offends behind the lines `before`, with the kind of its fault. -/
inductive Offends (vars : Variables) (k : Keywords) (before : List Text) (line : Text) :
    FaultKind → Fault → Prop
  | endifOutside (hkind : k.classify (Text.trim line) = .closing)
      (hlevel : level k before = 0) : Offends vars k before line .structural .endifOutside
  | elseOutside (hkind : k.classify (Text.trim line) = .otherwise)
      (hlevel : level k before = 0) : Offends vars k before line .structural .elseOutside
  | elseifOutside {rest : Text} (hkind : k.classify (Text.trim line) = .branch rest)
      (hlevel : level k before = 0) : Offends vars k before line .structural .elseifOutside
  | elseifAfterElse {rest : Text} {earlier : List Branch} {current : Branch}
      (hkind : k.classify (Text.trim line) = .branch rest)
      (hopen : OpenAt k before 0 earlier current)
      (helse : ∃ b ∈ earlier ++ [current], k.opensElse b.opening = true) :
      Offends vars k before line .structural .elseifAfterElse
  | ifCondition {rest : Text} {kind : FaultKind} {fault : Fault}
      (hkind : k.classify (Text.trim line) = .opening rest)
      (hfaulty : FaultyCondition vars rest kind fault) : Offends vars k before line kind fault
  /-- The condition of an `elseif` line counts only as long as none of the block was true. -/
  | elseifCondition {rest : Text} {earlier : List Branch} {current : Branch}
      {kind : FaultKind} {fault : Fault} (hkind : k.classify (Text.trim line) = .branch rest)
      (hopen : OpenAt k before 0 earlier current)
      (helse : ¬ ∃ b ∈ earlier ++ [current], k.opensElse b.opening = true)
      (hfalse : ¬ ∃ b ∈ earlier ++ [current], lineHolds vars k b.opening = true)
      (hfaulty : FaultyCondition vars rest kind fault) : Offends vars k before line kind fault

/-- No line offends. -/
def Clean (vars : Variables) (k : Keywords) (lines : List Text) : Prop :=
  ∀ before line after, lines = before ++ line :: after →
    ∀ kind fault, ¬ Offends vars k before line kind fault

section Offences

variable {vars : Variables} {k : Keywords}

theorem FaultyCondition.kind_eq {rest : Text} {kind : FaultKind} {fault : Fault}
    (h : FaultyCondition vars rest kind fault) : fault.kind = kind := by
  cases h with
  | spaceMissing => rfl
  | noValue hspace hvalue =>
    obtain ⟨operand, rfl⟩ := Condition.evaluate_eq_error hvalue
    rfl

theorem Offends.kind_eq {before : List Text} {line : Text} {kind : FaultKind} {fault : Fault}
    (h : Offends vars k before line kind fault) : fault.kind = kind := by
  cases h with
  | ifCondition _ hfaulty => exact hfaulty.kind_eq
  | elseifCondition _ _ _ _ hfaulty => exact hfaulty.kind_eq
  | endifOutside | elseOutside | elseifOutside | elseifAfterElse => rfl

theorem clean_nil : Clean vars k [] := by
  intro before line after h
  simp at h

theorem clean_concat_iff {lines : List Text} {line : Text} :
    Clean vars k (lines ++ [line]) ↔
      Clean vars k lines ∧ ∀ kind fault, ¬ Offends vars k lines line kind fault :=
  forall_split_concat_iff

/-! ## §2 One line -/

/-- A condition has no value when it is faulty. -/
theorem conditionValue_eq_error_iff {place : Place} {rest : Text} {d : Diagnostic} :
    conditionValue vars place rest = .error d ↔
      ∃ kind fault, FaultyCondition vars rest kind fault ∧ d = ⟨fault, place⟩ := by
  rw [conditionValue_relocate vars .unknown]
  constructor
  · intro h
    by_cases hspace : rest.head? = some ' '
    · rw [conditionValue, if_pos hspace] at h
      cases hvalue : Condition.evaluate vars .unknown (Text.trim rest) with
      | ok holds => rw [hvalue] at h; cases h
      | error e =>
        rw [hvalue] at h
        cases h
        exact ⟨_, _, .noValue hspace hvalue, rfl⟩
    · rw [conditionValue, if_neg hspace] at h
      cases h
      exact ⟨_, _, .spaceMissing hspace, rfl⟩
  · rintro ⟨kind, fault, hfaulty, rfl⟩
    cases hfaulty with
    | spaceMissing hspace => rw [conditionValue, if_neg hspace]; rfl
    | noValue hspace hvalue => rw [conditionValue, if_pos hspace, hvalue]; rfl

/-- No block is open exactly where the level is zero. -/
theorem eq_nil_iff_level {strip : Bool} {file : Option Text} {before : List Text}
    {stack : BlockStack} {out : List Text}
    (hrun : run vars k strip file 0 [] before = .ok (stack, out)) :
    stack = [] ↔ level k before = 0 := by
  rw [← length_eq_level hrun, ← List.length_eq_zero_iff]
  exact Int.natCast_eq_zero.symm

/-- Reading a line fails when the line offends. -/
theorem advance_eq_error_iff {strip : Bool} {file : Option Text} {before : List Text}
    {stack : BlockStack} {out : List Text}
    (hrun : run vars k strip file 0 [] before = .ok (stack, out)) {line : Text} {place : Place}
    {indent : Nat} {d : Diagnostic} :
    advance vars place indent stack (k.classify (Text.trim line)) = .error d ↔
      ∃ kind fault, Offends vars k before line kind fault ∧ d = ⟨fault, place⟩ := by
  have htracks := tracks_of_run hrun
  have hnil := eq_nil_iff_level hrun
  constructor
  · intro h
    cases hkind : k.classify (Text.trim line) with
    | code => rw [hkind] at h; cases h
    | opening rest =>
      rw [hkind, advance, bind_eq_error_iff] at h
      rcases h with h | ⟨holds, -, h⟩
      · obtain ⟨kind, fault, hfaulty, rfl⟩ := conditionValue_eq_error_iff.mp h
        exact ⟨kind, fault, .ifCondition hkind hfaulty, rfl⟩
      · cases h
    | branch rest =>
      rw [hkind] at h
      cases stack with
      | nil =>
        cases h
        exact ⟨_, _, .elseifOutside hkind (hnil.mp rfl), rfl⟩
      | cons top outer =>
        obtain ⟨earlier, current, hopen, rfl⟩ := (htracks 0 top).mp rfl
        simp only [advance, enterBranch] at h
        split at h
        · next helse =>
          cases h
          exact ⟨_, _, .elseifAfterElse hkind hopen (elseSeen_blockOf_iff.mp helse), rfl⟩
        next helse =>
        split at h
        · cases h
        · next hever =>
          rcases bind_eq_error_iff.mp h with h | ⟨holds, -, h⟩
          · obtain ⟨kind, fault, hfaulty, rfl⟩ := conditionValue_eq_error_iff.mp h
            refine ⟨kind, fault, .elseifCondition hkind hopen ?_ ?_ hfaulty, rfl⟩
            · rwa [← elseSeen_blockOf_iff]
            · rwa [← everTrue_blockOf_iff]
          · cases h
    | otherwise =>
      rw [hkind] at h
      cases stack with
      | nil =>
        cases h
        exact ⟨_, _, .elseOutside hkind (hnil.mp rfl), rfl⟩
      | cons top outer => cases h
    | closing =>
      rw [hkind] at h
      cases stack with
      | nil =>
        cases h
        exact ⟨_, _, .endifOutside hkind (hnil.mp rfl), rfl⟩
      | cons top outer => cases h
  · rintro ⟨kind, fault, hoffends, rfl⟩
    cases hoffends with
    | endifOutside hkind hlevel => rw [hkind, hnil.mpr hlevel]; rfl
    | elseOutside hkind hlevel => rw [hkind, hnil.mpr hlevel]; rfl
    | elseifOutside hkind hlevel => rw [hkind, hnil.mpr hlevel]; rfl
    | ifCondition hkind hfaulty =>
      rw [hkind, advance, bind_eq_error_iff]
      exact .inl (conditionValue_eq_error_iff.mpr ⟨_, _, hfaulty, rfl⟩)
    | elseifAfterElse hkind hopen helse =>
      obtain ⟨outer, rfl⟩ := htracks.exists_outer hopen
      rw [hkind, advance, enterBranch, if_pos (elseSeen_blockOf_iff.mpr helse)]
    | elseifCondition hkind hopen helse hfalse hfaulty =>
      obtain ⟨outer, rfl⟩ := htracks.exists_outer hopen
      rw [hkind, advance, enterBranch, if_neg (mt elseSeen_blockOf_iff.mp helse),
        if_neg (mt everTrue_blockOf_iff.mp hfalse), bind_eq_error_iff]
      exact .inl (conditionValue_eq_error_iff.mpr ⟨_, _, hfaulty, rfl⟩)

theorem Offends.advance_eq_error {strip : Bool} {file : Option Text} {before : List Text}
    {stack : BlockStack} {out : List Text} {line : Text} {kind : FaultKind} {fault : Fault}
    (h : Offends vars k before line kind fault)
    (hrun : run vars k strip file 0 [] before = .ok (stack, out)) (place : Place)
    (indent : Nat) :
    advance vars place indent stack (k.classify (Text.trim line)) = .error ⟨fault, place⟩ :=
  (advance_eq_error_iff hrun).mpr ⟨kind, fault, h, rfl⟩

end Offences

/-! ## §3 Runs and conversions -/

section Run

variable {vars : Variables} {k : Keywords} {strip : Bool} {file : Option Text}

theorem run_singleton_eq_error_iff {count : Nat} {stack : BlockStack} {line : Text}
    {d : Diagnostic} :
    run vars k strip file count stack [line] = .error d ↔
      advance vars ⟨some (count + 1), file⟩ (Text.indentation line) stack
        (k.classify (Text.trim line)) = .error d := by
  rw [run, step]
  cases advance vars ⟨some (count + 1), file⟩ (Text.indentation line) stack
    (k.classify (Text.trim line)) with
  | error e =>
    constructor
    · intro h; cases h; rfl
    · intro h; cases h; rfl
  | ok after =>
    constructor
    · intro h; cases h
    · intro h; cases h

/-- A run over two lists fails in the first or, behind it, in the second. -/
theorem run_append_eq_error_iff {count : Nat} {stack : BlockStack} {first second : List Text}
    {d : Diagnostic} :
    run vars k strip file count stack (first ++ second) = .error d ↔
      run vars k strip file count stack first = .error d ∨
        ∃ mid output, run vars k strip file count stack first = .ok (mid, output) ∧
          run vars k strip file (count + first.length) mid second = .error d := by
  rw [run_append, bind_eq_error_iff]
  refine or_congr_right ⟨?_, ?_⟩
  · rintro ⟨⟨mid, output⟩, hfirst, h⟩
    rcases bind_eq_error_iff.mp h with h | ⟨p, -, h⟩
    · exact ⟨mid, output, hfirst, h⟩
    · cases h
  · rintro ⟨mid, output, hfirst, h⟩
    exact ⟨(mid, output), hfirst, bind_eq_error_iff.mpr (.inl h)⟩

/-- A run succeeds when no line offends. -/
theorem run_eq_ok_iff_clean {lines : List Text} :
    (∃ stack out, run vars k strip file 0 [] lines = .ok (stack, out)) ↔ Clean vars k lines := by
  induction lines using List.reverseRecOn with
  | nil => exact ⟨fun _ => clean_nil, fun _ => ⟨[], [], rfl⟩⟩
  | append_singleton lines line ih =>
    rw [clean_concat_iff, ← ih]
    constructor
    · rintro ⟨stack, out, h⟩
      obtain ⟨mid, output, hlines, hafter, -⟩ := run_concat_eq_ok_iff.mp h
      refine ⟨⟨mid, output, hlines⟩, fun kind fault hoffends => ?_⟩
      rw [hoffends.advance_eq_error hlines] at hafter
      cases hafter
    · rintro ⟨⟨stack, out, hlines⟩, hline⟩
      cases hafter : advance vars ⟨some (0 + lines.length + 1), file⟩ (Text.indentation line)
          stack (k.classify (Text.trim line)) with
      | ok after => exact ⟨after, _, run_concat_eq_ok_iff.mpr ⟨stack, out, hlines, hafter, rfl⟩⟩
      | error d =>
        obtain ⟨kind, fault, hoffends, -⟩ := (advance_eq_error_iff hlines).mp hafter
        exact absurd hoffends (hline kind fault)

/-- A run fails at the first line that offends. -/
theorem run_eq_error_of_offends {before after : List Text} {line : Text} {kind : FaultKind}
    {fault : Fault} (hclean : Clean vars k before)
    (hoffends : Offends vars k before line kind fault) :
    run vars k strip file 0 [] (before ++ line :: after) =
      .error ⟨fault, ⟨some (before.length + 1), file⟩⟩ := by
  obtain ⟨stack, out, hbefore⟩ : ∃ stack out,
      run vars k strip file 0 [] before = .ok (stack, out) := run_eq_ok_iff_clean.mpr hclean
  rw [List.append_cons]
  refine run_append_eq_error_iff.mpr (.inl (run_append_eq_error_iff.mpr (.inr ?_)))
  refine ⟨stack, out, hbefore, run_singleton_eq_error_iff.mpr ?_⟩
  rw [Nat.zero_add]
  exact hoffends.advance_eq_error hbefore _ _

end Run

/-- A conversion whose run succeeds fails only for blocks that stay open. -/
theorem convert_eq_of_run {c : Conversion} {file : Option Text} {lines out : List Text}
    {stack : BlockStack}
    (h : run c.vars (c.keywords.forFile file) c.strip file 0 [] lines = .ok (stack, out)) :
    c.convert file lines = if 0 < level (c.keywords.forFile file) lines
      then .error ⟨.endifMissing, ⟨some lines.length, file⟩⟩ else .ok out := by
  rw [convert, convertLines, convertFrom_eq_run, h, ← length_eq_level h]
  cases stack with
  | nil => rfl
  | cons top outer =>
    rw [if_pos (by simp only [List.length_cons]; omega), Nat.zero_add]
    rfl

/-- **Which files are refused**: those with a line that offends, and those that leave blocks
open.  The first line that offends decides about the diagnostic, whatever comes after it. -/
theorem convert_refuses_iff (c : Conversion) (file : Option Text) (lines : List Text) :
    ((∃ d, c.convert file lines = .error d) ↔
      (∃ before line after kind fault, lines = before ++ line :: after ∧
        Offends c.vars (c.keywords.forFile file) before line kind fault) ∨
          0 < level (c.keywords.forFile file) lines) ∧
    (∀ before line after kind fault, lines = before ++ line :: after →
      Clean c.vars (c.keywords.forFile file) before →
      Offends c.vars (c.keywords.forFile file) before line kind fault →
        c.convert file lines = .error ⟨fault, ⟨some (before.length + 1), file⟩⟩ ∧
          fault.kind = kind ∧
          ∀ others, c.convert file (before ++ line :: others) = c.convert file lines) ∧
    (Clean c.vars (c.keywords.forFile file) lines →
      0 < level (c.keywords.forFile file) lines →
        c.convert file lines = .error ⟨.endifMissing, ⟨some lines.length, file⟩⟩ ∧
          Fault.endifMissing.kind = .structural ∧
          Fault.endifMissing.text = Text.ofString "Missing endif") := by
  refine ⟨⟨?fails, ?refused⟩, ?first, ?left⟩
  case fails =>
    rintro ⟨d, hd⟩
    by_contra hnot
    obtain ⟨hnone, hlevel⟩ := not_or.mp hnot
    have hclean : Clean c.vars (c.keywords.forFile file) lines :=
      fun before line after hsplit kind fault hoffends =>
        hnone ⟨before, line, after, kind, fault, hsplit, hoffends⟩
    obtain ⟨stack, out, hrun⟩ := run_eq_ok_iff_clean.mpr hclean
    rw [convert_eq_of_run hrun, if_neg hlevel] at hd
    cases hd
  case refused =>
    intro h
    cases hconvert : c.convert file lines with
    | error d => exact ⟨d, rfl⟩
    | ok out =>
      have hrun := convert_eq_ok_iff.mp hconvert
      have hlevel := length_eq_level hrun
      rcases h with ⟨before, line, after, kind, fault, hsplit, hoffends⟩ | h
      · exact absurd hoffends (run_eq_ok_iff_clean.mp ⟨_, _, hrun⟩ before line after hsplit _ _)
      · rw [← hlevel] at h
        cases h
  case first =>
    rintro before line after kind fault rfl hclean hoffends
    have herror (others : List Text) : c.convert file (before ++ line :: others) =
        .error ⟨fault, ⟨some (before.length + 1), file⟩⟩ := by
      rw [convert, convertLines, convertFrom_eq_run, run_eq_error_of_offends hclean hoffends]
      rfl
    exact ⟨herror after, hoffends.kind_eq, fun others => by rw [herror, herror]⟩
  case left =>
    intro hclean hlevel
    obtain ⟨stack, out, hrun⟩ := run_eq_ok_iff_clean.mpr hclean
    refine ⟨?_, rfl, rfl⟩
    rw [convert_eq_of_run hrun, if_pos hlevel]

/-- In a branch that is not selected, an `if` line without a space in front of its condition
is refused like anywhere else. -/
theorem convert_refuses_unselected :
    convert ⟨Dictionary.empty, Dictionary.empty, true⟩ (some ['f'])
        [Text.ofString "//#if a", Text.ofString "//#ifb", Text.ofString "//#endif"] =
      .error ⟨.spaceMissing, ⟨some 2, some ['f']⟩⟩ := by
  have hclean : Clean Dictionary.empty Keywords.standard [Text.ofString "//#if a"] := by
    have hrun : run Dictionary.empty Keywords.standard true none 0 [] [Text.ofString "//#if a"] =
        .ok ([⟨false, false, false, 0⟩], []) := by decide +kernel
    exact run_eq_ok_iff_clean.mp ⟨_, _, hrun⟩
  have hoffends : Offends Dictionary.empty Keywords.standard [Text.ofString "//#if a"]
      (Text.ofString "//#ifb") .syntactic .spaceMissing :=
    .ifCondition (show _ = Directive.opening ['b'] by decide) (.spaceMissing (by decide))
  exact ((convert_refuses_iff ⟨Dictionary.empty, Dictionary.empty, true⟩ (some ['f']) _).2.1
    [Text.ofString "//#if a"] (Text.ofString "//#ifb") _ _ _ rfl hclean hoffends).1

end Conversion

end CommentSwitch
