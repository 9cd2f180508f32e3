import CommentSwitch.Condition
import Mathlib.Data.List.Basic

/-!
# Readings of a comparison

A text can often be read as a comparison in several ways: operators stand next to each other, one
starts another, and a side may hold further operators.  Of all readings the one with the longest
left side counts, and among operators at its end the first one in the order of `Comparison.all`
that leaves a right side.

- `Comparison.IsReading`, `Comparison.Preferred`: the readings of a text, and the one that counts
- `Comparison.split?_eq_some_iff`, `Comparison.split?_eq_none_iff`: cutting a text finds that one
- `Condition.evaluate_of_readings`: the value of a condition without connectives
-/

namespace CommentSwitch

namespace Comparison

/-! ## §1 Readings -/

/-- A text is cut in front of an operator that leaves something to its right. -/
structure IsCut (t lhs : Text) (op : Comparison) (rhs : Text) : Prop where
  eq : t = lhs ++ op.token ++ rhs
  rhs_ne_nil : rhs ≠ []

/-- A text is read as a comparison: there is something on both sides of the operator, and no line
feed on either of them. -/
structure IsReading (t lhs : Text) (op : Comparison) (rhs : Text) : Prop extends
    IsCut t lhs op rhs where
  lhs_ne_nil : lhs ≠ []
  no_line_feed : '\n' ∉ lhs ∧ '\n' ∉ rhs

/-- Of several ways to cut a text the one with the longest left side, and among those the one
whose operator is tried first. -/
structure Preferred (Way : Text → Comparison → Text → Prop) (lhs : Text) (op : Comparison)
    (rhs : Text) : Prop where
  way : Way lhs op rhs
  longest : ∀ l o r, Way l o r → l.length ≤ lhs.length
  first : ∀ o r, Way lhs o r → all.idxOf op ≤ all.idxOf o

section Ways

variable {t lhs l rhs r : Text} {op o : Comparison} {Way : Text → Comparison → Text → Prop}

/-- Only one way is preferred. -/
theorem Preferred.unique (hway : ∀ {l o r}, Way l o r → IsCut t l o r)
    (h : Preferred Way lhs op rhs) (h' : Preferred Way l o r) : (l, o, r) = (lhs, op, rhs) := by
  have hlength : l.length = lhs.length :=
    Nat.le_antisymm (h.longest l o r h'.way) (h'.longest lhs op rhs h.way)
  have hcut : l ++ (o.token ++ r) = lhs ++ (op.token ++ rhs) := by
    rw [← List.append_assoc, ← List.append_assoc, ← (hway h.way).eq, ← (hway h'.way).eq]
  obtain ⟨rfl, hrest⟩ := List.append_inj hcut hlength
  have hindex : all.idxOf o = all.idxOf op :=
    Nat.le_antisymm (h'.first op rhs h.way) (h.first o r h'.way)
  obtain rfl : o = op := by
    revert hindex
    cases o <;> cases op <;> decide
  rw [List.append_cancel_left hrest]

/-! ## §2 Cutting at the last place -/

/-- An operator is found at the start of a text if the text is cut in front of it there. -/
theorem attempt_eq_some_iff :
    (match Text.afterToken? op.token t with
      | some (c :: rest) => some (op, c :: rest)
      | _ => none) = some (o, r) ↔ op = o ∧ IsCut t [] op r := by
  constructor
  · intro h
    split at h
    · next c rest hafter =>
      cases h
      exact ⟨rfl, Text.afterToken?_eq_some_iff.mp hafter, List.cons_ne_nil c rest⟩
    · cases h
  · rintro ⟨rfl, heq, hr⟩
    obtain ⟨c, rest, rfl⟩ := List.exists_cons_of_ne_nil hr
    have hafter : Text.afterToken? op.token t = some (c :: rest) :=
      Text.afterToken?_eq_some_iff.mpr heq
    rw [hafter]

theorem not_isCut_of_leading? (h : leading? t = none) (o : Comparison) (r : Text) :
    ¬ IsCut t [] o r := by
  intro hcut
  have hnone := List.findSome?_eq_none_iff.mp h o (by cases o <;> decide)
  cases (attempt_eq_some_iff.mpr ⟨rfl, hcut⟩).symm.trans hnone

/-- The operator that is found first is the first one in front of which the text is cut. -/
theorem first_of_leading? (h : leading? t = some (op, rhs)) :
    IsCut t [] op rhs ∧ ∀ o r, IsCut t [] o r → all.idxOf op ≤ all.idxOf o := by
  obtain ⟨before, op', after, hall, hfound, hbefore⟩ := List.findSome?_eq_some_iff.mp h
  obtain ⟨rfl, hcut⟩ := attempt_eq_some_iff.mp hfound
  have hlater {o : Comparison} {r : Text} (ho : IsCut t [] o r) : o ∉ before := by
    intro hmem
    cases (attempt_eq_some_iff.mpr ⟨rfl, ho⟩).symm.trans (hbefore o hmem)
  refine ⟨hcut, ?_⟩
  intro o r ho
  rw [hall, List.idxOf_append_of_notMem (hlater hcut), List.idxOf_append_of_notMem (hlater ho),
    List.idxOf_cons_self]
  exact Nat.le_add_right _ _

/-- What is cut behind its first character is cut in its rest. -/
theorem isCut_cons_cons_iff {c d : Char} :
    IsCut (c :: t) (d :: lhs) op rhs ↔ c = d ∧ IsCut t lhs op rhs := by
  constructor
  · rintro ⟨heq, hrhs⟩
    obtain ⟨rfl, ht⟩ := List.cons.inj heq
    exact ⟨rfl, ht, hrhs⟩
  · rintro ⟨rfl, rfl, hrhs⟩
    exact ⟨rfl, hrhs⟩

theorem not_isCut_nil : ¬ IsCut [] lhs op rhs := by
  rintro ⟨heq, hrhs⟩
  simp [hrhs] at heq

/-- A text that is not cut at the last place is not cut anywhere. -/
theorem not_isCut_of_lastCut? (h : lastCut? t = none) (l : Text) (o : Comparison) (r : Text) :
    ¬ IsCut t l o r := by
  induction t generalizing l with
  | nil => exact not_isCut_nil
  | cons c t ih =>
    rw [lastCut?] at h
    split at h
    · cases h
    · next hrest =>
      cases l with
      | nil => exact not_isCut_of_leading? (Option.map_eq_none_iff.mp h) o r
      | cons d l => exact fun hcut => ih hrest l (isCut_cons_cons_iff.mp hcut).2

/-- The last place counts, since cuts further to the left have shorter left sides. -/
theorem preferred_of_lastCut? (h : lastCut? t = some (lhs, op, rhs)) :
    Preferred (IsCut t) lhs op rhs := by
  induction t generalizing lhs with
  | nil => cases h
  | cons c t ih =>
    rw [lastCut?] at h
    split at h
    · next lhs' op' rhs' hrest =>
      cases h
      have hpreferred := ih hrest
      refine ⟨isCut_cons_cons_iff.mpr ⟨rfl, hpreferred.way⟩, ?longest, ?first⟩
      case longest =>
        intro l o r hcut
        cases l with
        | nil => exact Nat.zero_le _
        | cons d l =>
          exact Nat.succ_le_succ (hpreferred.longest l o r (isCut_cons_cons_iff.mp hcut).2)
      case first =>
        intro o r hcut
        exact hpreferred.first o r (isCut_cons_cons_iff.mp hcut).2
    · next hrest =>
      obtain ⟨⟨op', rhs'⟩, hleading, heq⟩ := Option.map_eq_some_iff.mp h
      cases heq
      obtain ⟨hcut, hfirst⟩ := first_of_leading? hleading
      refine ⟨hcut, ?_, hfirst⟩
      -- Nothing further to the right is cut.
      intro l o r hcut'
      cases l with
      | nil => exact Nat.le_refl _
      | cons d l =>
        exact absurd (isCut_cons_cons_iff.mp hcut').2 (not_isCut_of_lastCut? hrest l o r)

/-! ## §3 The reading that counts -/

theorem IsReading.not_mem (h : IsReading t lhs op rhs) : '\n' ∉ t := by
  have htoken : '\n' ∉ op.token := by cases op <;> decide
  rw [h.eq, List.mem_append, List.mem_append, not_or, not_or]
  exact ⟨⟨h.no_line_feed.1, htoken⟩, h.no_line_feed.2⟩

/-- The first character belongs to the left side; behind it a text may be cut anywhere. -/
theorem isReading_cons_iff {c : Char} (hline : '\n' ∉ c :: t) :
    IsReading (c :: t) l op rhs ↔ ∃ lhs, l = c :: lhs ∧ IsCut t lhs op rhs := by
  constructor
  · intro h
    obtain ⟨d, lhs, rfl⟩ := List.exists_cons_of_ne_nil h.lhs_ne_nil
    obtain ⟨rfl, hcut⟩ := isCut_cons_cons_iff.mp h.toIsCut
    exact ⟨lhs, rfl, hcut⟩
  · rintro ⟨lhs, rfl, hcut⟩
    have hwhole : IsCut (c :: t) (c :: lhs) op rhs := isCut_cons_cons_iff.mpr ⟨rfl, hcut⟩
    rw [hwhole.eq, List.mem_append, List.mem_append, not_or, not_or] at hline
    exact ⟨hwhole, List.cons_ne_nil c lhs, hline.1.1, hline.2⟩

theorem not_isReading_of_split? (h : split? t = none) (l : Text) (o : Comparison) (r : Text) :
    ¬ IsReading t l o r := by
  intro hreading
  unfold split? at h
  rw [if_neg hreading.not_mem] at h
  cases t with
  | nil => exact not_isCut_nil hreading.toIsCut
  | cons c t =>
    obtain ⟨l, rfl, hcut⟩ := (isReading_cons_iff hreading.not_mem).mp hreading
    exact not_isCut_of_lastCut? (Option.map_eq_none_iff.mp h) l o r hcut

theorem preferred_of_split? (h : split? t = some (lhs, op, rhs)) :
    Preferred (IsReading t) lhs op rhs := by
  unfold split? at h
  split at h
  · cases h
  · next hline =>
    cases t with
    | nil => cases h
    | cons c t =>
      obtain ⟨⟨lhs', op', rhs'⟩, hcut, heq⟩ := Option.map_eq_some_iff.mp h
      cases heq
      have hpreferred := preferred_of_lastCut? hcut
      refine ⟨(isReading_cons_iff hline).mpr ⟨lhs', rfl, hpreferred.way⟩, ?longest, ?first⟩
      case longest =>
        intro l o r hreading
        obtain ⟨l, rfl, hl⟩ := (isReading_cons_iff hline).mp hreading
        exact Nat.succ_le_succ (hpreferred.longest l o r hl)
      case first =>
        intro o r hreading
        obtain ⟨l, heq, hl⟩ := (isReading_cons_iff hline).mp hreading
        cases heq
        exact hpreferred.first o r hl

/-- Cutting a text finds the reading that counts. -/
theorem split?_eq_some_iff :
    split? t = some (lhs, op, rhs) ↔ Preferred (IsReading t) lhs op rhs := by
  constructor
  · exact preferred_of_split?
  · intro h
    cases hsplit : split? t with
    | none => exact absurd h.way (not_isReading_of_split? hsplit lhs op rhs)
    | some found =>
      exact congrArg some (h.unique IsReading.toIsCut (preferred_of_split? hsplit))

/-- Cutting a text finds nothing if there is no reading. -/
theorem split?_eq_none_iff : split? t = none ↔ ∀ l o r, ¬ IsReading t l o r := by
  constructor
  · exact not_isReading_of_split?
  · intro h
    cases hsplit : split? t with
    | none => rfl
    | some found => exact absurd (preferred_of_split? hsplit).way (h found.1 found.2.1 found.2.2)

end Ways

/-! Of chained and doubled operators the last one counts that leaves something to its right. -/

example : split? "a<b<c".toList = some ("a<b".toList, less, "c".toList) := by decide

example : split? "a<=".toList = some ("a".toList, less, "=".toList) := by decide

end Comparison

namespace Condition

/-! ## §4 Values -/

/-- The value of a comparison: both sides are trimmed, looked up once and read as integers, the
left one first. -/
def comparisonValue (vars : Variables) (place : Place) (lhs : Text) (op : Comparison)
    (rhs : Text) : Except Diagnostic Bool :=
  let left := vars.resolve (Text.trim lhs)
  let right := vars.resolve (Text.trim rhs)
  match Text.toInt64? left, Text.toInt64? right with
  | none, _ => .error ⟨.notInteger left, place⟩
  | some _, none => .error ⟨.notInteger right, place⟩
  | some m, some n => .ok (op.holds m n)

section Values

variable (vars : Variables) (place : Place) {t lhs rhs : Text} {op : Comparison}

theorem evaluateAtom_of_split?_eq_some (h : Comparison.split? t = some (lhs, op, rhs)) :
    evaluateAtom vars place t = comparisonValue vars place lhs op rhs := by
  simp only [evaluateAtom, h, operandValue, comparisonValue]
  cases Text.toInt64? (vars.resolve (Text.trim lhs)) with
  | none => rfl
  | some m => cases Text.toInt64? (vars.resolve (Text.trim rhs)) <;> rfl

theorem evaluateAtom_of_split?_eq_none (h : Comparison.split? t = none) :
    evaluateAtom vars place t = .ok (nameHolds vars t) := by
  unfold evaluateAtom
  rw [h]

/-- **The value of a trimmed condition without connectives.**  If it has no reading as a
comparison, all of it is the name of a variable.  Otherwise one of its readings is preferred, no
other one is, and its value is that of the condition. -/
theorem evaluate_of_readings (htrim : Text.trim t = t) (hor : (operands '|' t).length ≤ 1)
    (hand : (operands '&' t).length ≤ 1) :
    ((∀ l o r, ¬ Comparison.IsReading t l o r) →
        evaluate vars place t = .ok (nameHolds vars t)) ∧
      ((∃ l o r, Comparison.IsReading t l o r) →
        ∃ lhs op rhs, Comparison.Preferred (Comparison.IsReading t) lhs op rhs ∧
          (∀ l o r, Comparison.Preferred (Comparison.IsReading t) l o r →
            (l, o, r) = (lhs, op, rhs)) ∧
          evaluate vars place t = comparisonValue vars place lhs op rhs) := by
  have hatom : evaluate vars place t = evaluateAtom vars place t := by
    have h := @evaluate_of_atom vars place t
    rw [htrim] at h
    exact h (Nat.not_lt.mpr hor) (Nat.not_lt.mpr hand)
  rw [hatom]
  constructor
  · intro hnone
    exact evaluateAtom_of_split?_eq_none vars place (Comparison.split?_eq_none_iff.mpr hnone)
  · rintro ⟨l, o, r, hreading⟩
    cases hsplit : Comparison.split? t with
    | none => exact absurd hreading (Comparison.split?_eq_none_iff.mp hsplit l o r)
    | some found =>
      obtain ⟨lhs, op, rhs⟩ := found
      have hpreferred := Comparison.split?_eq_some_iff.mp hsplit
      exact ⟨lhs, op, rhs, hpreferred,
        fun _ _ _ => hpreferred.unique Comparison.IsReading.toIsCut,
        evaluateAtom_of_split?_eq_some vars place hsplit⟩

end Values

/-- Variables whose names hold signs. -/
def signsInNames : Variables :=
  .ofList [("a=".toList, "3".toList), ("b".toList, "+3".toList), ("<=".toList, "yes".toList)]

/-- The last two of three signs are the operator, and an operator alone is a name. -/
theorem evaluate_signsInNames :
    Comparison.IsReading "a===b".toList "a".toList .equal "=b".toList ∧
      Comparison.Preferred (Comparison.IsReading "a===b".toList) "a=".toList .equal "b".toList ∧
      evaluate signsInNames ⟨some 3, none⟩ "a===b".toList = .ok true ∧
      (∀ l o r, ¬ Comparison.IsReading "<=".toList l o r) ∧
      evaluate signsInNames ⟨some 3, none⟩ "<=".toList = .ok true := by
  have hreading : Comparison.IsReading "a===b".toList "a".toList .equal "=b".toList :=
    ⟨⟨rfl, by decide⟩, by decide, by decide⟩
  have hpreferred :
      Comparison.Preferred (Comparison.IsReading "a===b".toList) "a=".toList .equal "b".toList :=
    Comparison.split?_eq_some_iff.mp (by decide)
  have hnone : ∀ l o r, ¬ Comparison.IsReading "<=".toList l o r :=
    Comparison.split?_eq_none_iff.mp (by decide)
  obtain ⟨lhs, op, rhs, -, hunique, hvalue⟩ :=
    (evaluate_of_readings signsInNames ⟨some 3, none⟩ (t := "a===b".toList) (by decide)
      (by decide) (by decide)).2 ⟨_, _, _, hreading⟩
  have hname := (evaluate_of_readings signsInNames ⟨some 3, none⟩ (t := "<=".toList) (by decide)
    (by decide) (by decide)).1 hnone
  cases hunique _ _ _ hpreferred
  refine ⟨hreading, hpreferred, hvalue.trans ?_, hnone, hname.trans ?_⟩
  · decide +kernel
  · decide +kernel

end Condition

end CommentSwitch
