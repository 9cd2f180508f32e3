import CommentSwitch.Condition
import CommentSwitch.Proofs.Text.Cutting

/-!
# Where a condition is cut

A condition whose operands hold no operators is cut exactly at the operators between them,
both at the connectives and at a comparison.

- `Condition.evaluate_eq_anyTrue`, `Condition.evaluate_eq_allTrue`: the value of a condition
  that is joined by connectives
- `Comparison.split?_append`: a comparison falls into its two sides
- `Comparison.split?_eq_none`: a text without operators is no comparison
-/

namespace CommentSwitch

namespace Condition

/-! ## §1 Connectives -/

section Operands

variable {c : Char} {t : Text} {pieces : List Text}

theorem dropTrailingEmpty_eq_self (h : ∀ piece ∈ pieces, piece ≠ []) :
    dropTrailingEmpty pieces = pieces := by
  induction pieces with
  | nil => rfl
  | cons piece others ih =>
    rw [dropTrailingEmpty]
    split
    · next hall =>
      cases others with
      | nil => rfl
      | cons next others =>
        have hnext : next.isEmpty = true := List.all_eq_true.mp hall next List.mem_cons_self
        exact absurd (List.isEmpty_iff.mp hnext) (h next (by simp))
    · rw [ih fun p hp => h p (List.mem_cons_of_mem _ hp)]

/-- The operands of a joined text are the pieces it is joined from. -/
theorem operands_intercalate (hne : pieces ≠ []) (hfree : ∀ piece ∈ pieces, c ∉ piece)
    (hpieces : ∀ piece ∈ pieces, piece ≠ []) :
    operands c ([c, c].intercalate pieces) = pieces := by
  rw [operands, Text.cutAtTwin_intercalate hne hfree, dropTrailingEmpty_eq_self hpieces]

theorem length_operands_of_not_mem (h : c ∉ t) : (operands c t).length = 1 := by
  rw [operands, Text.cutAtTwin_eq_singleton h]
  rfl

theorem exists_singleton (hne : pieces ≠ []) (hmany : ¬ 1 < pieces.length) :
    ∃ piece, pieces = [piece] := by
  have hpos := List.length_pos_of_ne_nil hne
  exact List.length_eq_one_iff.mp (by omega)

end Operands

section Connectives

variable {vars : Variables} {place : Place} {t : Text} {pieces : List Text}

theorem anyTrue_singleton {α ε : Type} (value : α → Except ε Bool) (a : α) :
    anyTrue value [a] = value a := by
  rw [anyTrue]
  cases value a with
  | error e => rfl
  | ok holds => cases holds <;> rfl

theorem allTrue_singleton {α ε : Type} (value : α → Except ε Bool) (a : α) :
    allTrue value [a] = value a := by
  rw [allTrue]
  cases value a with
  | error e => rfl
  | ok holds => cases holds <;> rfl

theorem anyTrue_congr {α ε : Type} {value value' : α → Except ε Bool} {l : List α}
    (h : ∀ a ∈ l, value a = value' a) : anyTrue value l = anyTrue value' l := by
  induction l with
  | nil => rfl
  | cons a rest ih =>
    obtain ⟨ha, hrest⟩ := List.forall_mem_cons.mp h
    rw [anyTrue, anyTrue, ha, ih hrest]

theorem allTrue_congr {α ε : Type} {value value' : α → Except ε Bool} {l : List α}
    (h : ∀ a ∈ l, value a = value' a) : allTrue value l = allTrue value' l := by
  induction l with
  | nil => rfl
  | cons a rest ih =>
    obtain ⟨ha, hrest⟩ := List.forall_mem_cons.mp h
    rw [allTrue, allTrue, ha, ih hrest]

/-- The blank around a condition does not matter. -/
theorem evaluate_trim (vars : Variables) (place : Place) (t : Text) :
    evaluate vars place (Text.trim t) = evaluate vars place t := by
  by_cases hor : 1 < (operands '|' (Text.trim t)).length
  · rw [evaluate_of_alternatives vars place hor,
      evaluate_of_alternatives vars place (by rwa [Text.trim_trim]), Text.trim_trim]
  by_cases hand : 1 < (operands '&' (Text.trim t)).length
  · rw [evaluate_of_conjuncts vars place hor hand,
      evaluate_of_conjuncts vars place (by rwa [Text.trim_trim]) (by rwa [Text.trim_trim]),
      Text.trim_trim]
  · rw [evaluate_of_atom vars place hor hand,
      evaluate_of_atom vars place (by rwa [Text.trim_trim]) (by rwa [Text.trim_trim]),
      Text.trim_trim]

/-- A condition that is joined from alternatives holds when one of them does. -/
theorem evaluate_eq_anyTrue (ht : Text.trim t = ['|', '|'].intercalate pieces)
    (hne : pieces ≠ []) (hpieces : ∀ piece ∈ pieces, '|' ∉ piece ∧ piece ≠ []) :
    evaluate vars place t = anyTrue (evaluate vars place) pieces := by
  have hoperands : operands '|' (Text.trim t) = pieces := by
    rw [ht]
    exact operands_intercalate hne (fun p hp => (hpieces p hp).1) fun p hp => (hpieces p hp).2
  by_cases hmany : 1 < pieces.length
  · rw [evaluate_of_alternatives vars place (by rwa [hoperands]), hoperands]
  · obtain ⟨piece, rfl⟩ := exists_singleton hne hmany
    rw [anyTrue_singleton, ← evaluate_trim, ht, List.intercalate_singleton]

/-- A condition that is joined from conjuncts holds when all of them do. -/
theorem evaluate_eq_allTrue (hbar : '|' ∉ Text.trim t)
    (ht : Text.trim t = ['&', '&'].intercalate pieces)
    (hne : pieces ≠ []) (hpieces : ∀ piece ∈ pieces, '&' ∉ piece ∧ piece ≠ []) :
    evaluate vars place t = allTrue (evaluate vars place) pieces := by
  have hsingle : ¬ 1 < (operands '|' (Text.trim t)).length := by
    rw [length_operands_of_not_mem hbar]
    exact Nat.lt_irrefl 1
  have hoperands : operands '&' (Text.trim t) = pieces := by
    rw [ht]
    exact operands_intercalate hne (fun p hp => (hpieces p hp).1) fun p hp => (hpieces p hp).2
  by_cases hmany : 1 < pieces.length
  · rw [evaluate_of_conjuncts vars place hsingle (by rwa [hoperands]), hoperands]
  · obtain ⟨piece, rfl⟩ := exists_singleton hne hmany
    rw [allTrue_singleton, ← evaluate_trim, ht, List.intercalate_singleton]

/-- A condition without connectives is an atom. -/
theorem evaluate_eq_evaluateAtom (hbar : '|' ∉ Text.trim t) (hamp : '&' ∉ Text.trim t) :
    evaluate vars place t = evaluateAtom vars place (Text.trim t) := by
  refine evaluate_of_atom vars place ?_ ?_
  · rw [length_operands_of_not_mem hbar]
    exact Nat.lt_irrefl 1
  · rw [length_operands_of_not_mem hamp]
    exact Nat.lt_irrefl 1

end Connectives

end Condition

namespace Comparison

/-! ## §2 Comparisons -/

/-- The characters that operators are made of. -/
def signs : Text := ['=', '!', '<', '>']

/-- The text holds no character that an operator is made of. -/
def OperatorFree (t : Text) : Prop := ∀ c ∈ t, c ∉ signs

section Cuts

variable {t lhs rhs : Text} {op : Comparison}

theorem OperatorFree.of_cons {c : Char} (h : OperatorFree (c :: t)) : OperatorFree t :=
  fun d hd => h d (List.mem_cons_of_mem _ hd)

theorem leading?_eq_none {c : Char} (h : c ∉ signs) : leading? (c :: t) = none := by
  simp only [signs, List.mem_cons, List.not_mem_nil, or_false, not_or] at h
  obtain ⟨heq, hbang, hless, hgreater⟩ := h
  simp [leading?, all, token, Text.afterToken?, Ne.symm heq, Ne.symm hbang, Ne.symm hless,
    Ne.symm hgreater]

theorem lastCut?_eq_none (h : OperatorFree t) : lastCut? t = none := by
  induction t with
  | nil => rfl
  | cons c t ih =>
    rw [lastCut?, ih h.of_cons, leading?_eq_none (h c List.mem_cons_self)]
    rfl

/-- In front of a text without operators, the whole operator is read. -/
theorem lastCut?_token (hne : rhs ≠ []) (hrhs : OperatorFree rhs) (op : Comparison) :
    lastCut? (op.token ++ rhs) = some ([], op, rhs) := by
  obtain ⟨c, rest, rfl⟩ := List.exists_cons_of_ne_nil hne
  have hnone := lastCut?_eq_none hrhs
  have hc := hrhs c List.mem_cons_self
  simp only [signs, List.mem_cons, List.not_mem_nil, or_false, not_or] at hc
  -- The second character of an operator opens no operator of its own.
  cases op <;>
    simp [token, lastCut?.eq_2, hnone, leading?, all, Text.afterToken?, Ne.symm hc.1]

/-- Behind a text without operators nothing changes. -/
theorem lastCut?_append (hlhs : OperatorFree lhs) (hne : rhs ≠ []) (hrhs : OperatorFree rhs)
    (op : Comparison) : lastCut? (lhs ++ op.token ++ rhs) = some (lhs, op, rhs) := by
  induction lhs with
  | nil => exact lastCut?_token hne hrhs op
  | cons c lhs ih =>
    rw [List.cons_append, List.cons_append, lastCut?, ih hlhs.of_cons]

/-- A comparison falls into its two sides. -/
theorem split?_append (hlhs : OperatorFree lhs) (hlne : lhs ≠ []) (hrhs : OperatorFree rhs)
    (hrne : rhs ≠ []) (hline : '\n' ∉ lhs ∧ '\n' ∉ rhs) :
    split? (lhs ++ op.token ++ rhs) = some (lhs, op, rhs) := by
  obtain ⟨c, lhs, rfl⟩ := List.exists_cons_of_ne_nil hlne
  have htoken : '\n' ∉ op.token := by cases op <;> decide
  have hall : '\n' ∉ c :: lhs ++ op.token ++ rhs := by
    rw [List.mem_append, List.mem_append, not_or, not_or]
    exact ⟨⟨hline.1, htoken⟩, hline.2⟩
  unfold split?
  rw [if_neg hall]
  simp only [List.cons_append, lastCut?_append hlhs.of_cons hrne hrhs, Option.map_some]

/-- A text without operators is no comparison. -/
theorem split?_eq_none (h : OperatorFree t) : split? t = none := by
  unfold split?
  split
  · rfl
  · cases t with
    | nil => rfl
    | cons c t =>
      simp only [lastCut?_eq_none h.of_cons, Option.map_none]

end Cuts

end Comparison

end CommentSwitch
