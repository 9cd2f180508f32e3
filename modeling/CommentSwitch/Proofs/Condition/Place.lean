import CommentSwitch.Conversion.Convert

/-!
# Places and conditions

The place of a condition goes into its diagnostics and into nothing else.

- `Condition.evaluate_relocate`: evaluation at another place
- `Condition.evaluate_eq_error`: what a diagnostic of a condition looks like
- `Conversion.conditionValue_relocate`: the same for the text behind a token
- `Conversion.conditionValue_eq_ok`: a value holds at every place
-/

namespace CommentSwitch

/-- The same fault at another place. -/
def Diagnostic.relocate (place : Place) (d : Diagnostic) : Diagnostic := ⟨d.fault, place⟩

namespace Condition

/-! ## §1 Connectives -/

section Connectives

variable {α ε ε' : Type} {f : ε → ε'} {value : α → Except ε Bool} {value' : α → Except ε' Bool}

theorem anyTrue_mapError {l : List α} (h : ∀ a ∈ l, value' a = (value a).mapError f) :
    anyTrue value' l = (anyTrue value l).mapError f := by
  induction l with
  | nil => rfl
  | cons a rest ih =>
    have hrest := ih fun b hb => h b (List.mem_cons_of_mem _ hb)
    rw [anyTrue, anyTrue, h a List.mem_cons_self, hrest]
    cases value a with
    | error e => rfl
    | ok holds => cases holds <;> rfl

theorem allTrue_mapError {l : List α} (h : ∀ a ∈ l, value' a = (value a).mapError f) :
    allTrue value' l = (allTrue value l).mapError f := by
  induction l with
  | nil => rfl
  | cons a rest ih =>
    have hrest := ih fun b hb => h b (List.mem_cons_of_mem _ hb)
    rw [allTrue, allTrue, h a List.mem_cons_self, hrest]
    cases value a with
    | error e => rfl
    | ok holds => cases holds <;> rfl

end Connectives

/-! ## §2 Conditions -/

theorem operandValue_relocate (vars : Variables) (place place' : Place) (operand : Text) :
    operandValue vars place' operand =
      (operandValue vars place operand).mapError (Diagnostic.relocate place') := by
  simp only [operandValue]
  cases Text.toInt64? (vars.resolve (Text.trim operand)) <;> rfl

theorem evaluateAtom_relocate (vars : Variables) (place place' : Place) (t : Text) :
    evaluateAtom vars place' t =
      (evaluateAtom vars place t).mapError (Diagnostic.relocate place') := by
  unfold evaluateAtom
  cases Comparison.split? t with
  | none => rfl
  | some cut =>
    obtain ⟨lhs, op, rhs⟩ := cut
    simp only [operandValue_relocate vars place place']
    cases operandValue vars place lhs with
    | error d => rfl
    | ok m => cases operandValue vars place rhs <;> rfl

/-- Evaluating a condition at another place changes the place of the diagnostic only. -/
theorem evaluate_relocate (vars : Variables) (place place' : Place) (condition : Text) :
    evaluate vars place' condition =
      (evaluate vars place condition).mapError (Diagnostic.relocate place') := by
  induction condition using evaluate.induct with
  | case1 condition _ hor ih =>
    rw [evaluate_of_alternatives vars place' hor, evaluate_of_alternatives vars place hor]
    exact anyTrue_mapError ih
  | case2 condition _ hor hand ih =>
    rw [evaluate_of_conjuncts vars place' hor hand, evaluate_of_conjuncts vars place hor hand]
    exact allTrue_mapError ih
  | case3 condition _ hor hand =>
    rw [evaluate_of_atom vars place' hor hand, evaluate_of_atom vars place hor hand]
    exact evaluateAtom_relocate vars place place' _

/-! ## §3 Faults -/

theorem anyTrue_eq_error {α ε : Type} {value : α → Except ε Bool} {l : List α} {e : ε}
    (h : anyTrue value l = .error e) : ∃ a ∈ l, value a = .error e := by
  induction l with
  | nil => cases h
  | cons a rest ih =>
    rw [anyTrue] at h
    cases hvalue : value a with
    | error e' =>
      rw [hvalue] at h
      cases h
      exact ⟨a, List.mem_cons_self, hvalue⟩
    | ok holds =>
      rw [hvalue] at h
      cases holds with
      | true => cases h
      | false =>
        obtain ⟨b, hb, hvalue⟩ := ih h
        exact ⟨b, List.mem_cons_of_mem _ hb, hvalue⟩

theorem allTrue_eq_error {α ε : Type} {value : α → Except ε Bool} {l : List α} {e : ε}
    (h : allTrue value l = .error e) : ∃ a ∈ l, value a = .error e := by
  induction l with
  | nil => cases h
  | cons a rest ih =>
    rw [allTrue] at h
    cases hvalue : value a with
    | error e' =>
      rw [hvalue] at h
      cases h
      exact ⟨a, List.mem_cons_self, hvalue⟩
    | ok holds =>
      rw [hvalue] at h
      cases holds with
      | false => cases h
      | true =>
        obtain ⟨b, hb, hvalue⟩ := ih h
        exact ⟨b, List.mem_cons_of_mem _ hb, hvalue⟩

theorem operandValue_eq_error {vars : Variables} {place : Place} {operand : Text}
    {d : Diagnostic} (h : operandValue vars place operand = .error d) :
    d = ⟨.notInteger (vars.resolve (Text.trim operand)), place⟩ := by
  simp only [operandValue] at h
  cases hvalue : Text.toInt64? (vars.resolve (Text.trim operand)) with
  | some n => rw [hvalue] at h; cases h
  | none => rw [hvalue] at h; cases h; rfl

theorem evaluateAtom_eq_error {vars : Variables} {place : Place} {t : Text} {d : Diagnostic}
    (h : evaluateAtom vars place t = .error d) :
    ∃ operand, d = ⟨.notInteger operand, place⟩ := by
  unfold evaluateAtom at h
  split at h
  · next lhs op rhs _ =>
    cases hlhs : operandValue vars place lhs with
    | error e =>
      rw [hlhs] at h
      cases h
      exact ⟨_, operandValue_eq_error hlhs⟩
    | ok m =>
      cases hrhs : operandValue vars place rhs with
      | error e =>
        rw [hlhs, hrhs] at h
        cases h
        exact ⟨_, operandValue_eq_error hrhs⟩
      | ok n =>
        rw [hlhs, hrhs] at h
        cases h
  · cases h

/-- The one fault that an evaluation reports is an operand that is no integer. -/
theorem evaluate_eq_error {vars : Variables} {place : Place} {condition : Text}
    {d : Diagnostic} (h : evaluate vars place condition = .error d) :
    ∃ operand, d = ⟨.notInteger operand, place⟩ := by
  induction condition using evaluate.induct with
  | case1 condition _ hor ih =>
    rw [evaluate_of_alternatives vars place hor] at h
    obtain ⟨part, hmem, herror⟩ := anyTrue_eq_error h
    exact ih part hmem herror
  | case2 condition _ hor hand ih =>
    rw [evaluate_of_conjuncts vars place hor hand] at h
    obtain ⟨part, hmem, herror⟩ := allTrue_eq_error h
    exact ih part hmem herror
  | case3 condition _ hor hand =>
    rw [evaluate_of_atom vars place hor hand] at h
    exact evaluateAtom_eq_error h

end Condition

/-! ## §4 Conditions of directives -/

namespace Conversion

theorem conditionValue_relocate (vars : Variables) (place place' : Place) (rest : Text) :
    conditionValue vars place' rest =
      (conditionValue vars place rest).mapError (Diagnostic.relocate place') := by
  unfold conditionValue
  split
  · exact Condition.evaluate_relocate vars place place' _
  · rfl

/-- A condition that has a value at one place has it at every place. -/
theorem conditionValue_eq_ok {vars : Variables} {place : Place} {rest : Text} {holds : Bool}
    (h : conditionValue vars place rest = .ok holds) (place' : Place) :
    conditionValue vars place' rest = .ok holds := by
  rw [conditionValue_relocate vars place, h]
  rfl

end Conversion

end CommentSwitch
