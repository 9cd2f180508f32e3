import CommentSwitch.Comparison
import CommentSwitch.Diagnostic
import CommentSwitch.Variables

/-!
# Conditions

The value of a condition under given variables.  A condition is cut at `||`, each
alternative at `&&`, and what remains is a comparison of two integers or the name
of a variable.  There is no grouping.  Alternatives and conjuncts are evaluated
from the left, and only as far as the value is still open.

- `Condition.evaluate_of_alternatives`, `Condition.evaluate_of_conjuncts`,
  `Condition.evaluate_of_atom`: the three cases of an evaluation
-/

namespace CommentSwitch

namespace Condition

/-! ## §1 Operands of an operator -/

/-- Drops the empty pieces at the end, but keeps the first piece. -/
def dropTrailingEmpty : List Text → List Text
  | [] => []
  | piece :: pieces =>
    -- What is empty from here on to the end is dropped as a whole.
    if pieces.all List.isEmpty then [piece] else piece :: dropTrailingEmpty pieces

/-- The operands around a doubled character; an operator with nothing behind it
does not count. -/
def operands (c : Char) (t : Text) : List Text := dropTrailingEmpty (Text.cutAtTwin c t)

theorem dropTrailingEmpty_sublist (l : List Text) : (dropTrailingEmpty l).Sublist l := by
  induction l with
  | nil => exact .slnil
  | cons piece pieces ih =>
    rw [dropTrailingEmpty]
    split
    · exact .cons_cons _ (List.nil_sublist _)
    · exact .cons_cons _ ih

/-! ## §2 Sizes -/

/-- The pieces of a text, with the two characters that were cut out between
neighbours, are as long as the text. -/
theorem length_cutAtTwin (c : Char) (t : Text) :
    (Text.cutAtTwin c t).flatten.length + 2 * (Text.cutAtTwin c t).length = t.length + 2 := by
  fun_induction Text.cutAtTwin c t with
  | case1 => rfl
  | case2 a => rfl
  | case3 a b rest h ih =>
    simp only [List.flatten_cons, List.length_append, List.length_cons, List.length_nil] at *
    omega
  | case4 a b rest h ih =>
    cases hp : Text.cutAtTwin c (b :: rest) with
    | nil => simp [hp] at ih
    | cons piece pieces =>
      simp only [hp, Text.consFirst, List.flatten_cons, List.length_append,
        List.length_cons] at *
      omega

/-- An operand of a text with several operands is shorter than the text. -/
theorem length_lt_of_mem_operands {c : Char} {t part : Text}
    (hpart : part ∈ operands c t) (hmany : 1 < (operands c t).length) :
    part.length < t.length := by
  have hsub : (operands c t).Sublist (Text.cutAtTwin c t) := dropTrailingEmpty_sublist _
  have hcount : 1 < (Text.cutAtTwin c t).length := Nat.lt_of_lt_of_le hmany hsub.length_le
  have hlength : part.length ≤ (Text.cutAtTwin c t).flatten.length :=
    (List.sublist_flatten_of_mem (hsub.subset hpart)).length_le
  have htotal := length_cutAtTwin c t
  omega

theorem length_trim_le (t : Text) : (Text.trim t).length ≤ t.length := by
  have hstart : (Text.trimStart t).length ≤ t.length := (List.dropWhile_suffix _).length_le
  have hend : (Text.trim t).length ≤ (Text.trimStart t).length := by
    simpa [Text.trim, Text.trimEnd] using
      (List.dropWhile_suffix (l := (Text.trimStart t).reverse) Text.isBlank).length_le
  exact Nat.le_trans hend hstart

/-! ## §3 Atoms -/

/-- The integer an operand stands for. -/
def operandValue (vars : Variables) (place : Place) (operand : Text) :
    Except Diagnostic Int :=
  -- A variable that is named like a numeral wins over it.
  let resolved := vars.resolve (Text.trim operand)
  match Text.toInt64? resolved with
  | some n => .ok n
  | none => .error ⟨.notInteger resolved, place⟩

/-- The truth of a name: undefined names are false, integers are true unless zero,
and every other value is true. -/
def nameHolds (vars : Variables) (name : Text) : Bool :=
  match vars.get? name with
  | none => false
  | some value => (Text.toInt64? value).all (· != 0)

/-- The value of a condition without connectives. -/
def evaluateAtom (vars : Variables) (place : Place) (t : Text) : Except Diagnostic Bool :=
  match Comparison.split? t with
  | some (lhs, op, rhs) => do
    let m ← operandValue vars place lhs
    let n ← operandValue vars place rhs
    return op.holds m n
  -- Without an operator the whole text is a name, even if it looks like a number.
  | none => .ok (nameHolds vars t)

/-! ## §4 Connectives -/

/-- Whether some member has a true value, evaluating from the left up to the first
that has. -/
def anyTrue {α ε : Type} (value : α → Except ε Bool) : List α → Except ε Bool
  | [] => .ok false
  | a :: rest => do if ← value a then return true else anyTrue value rest

/-- Whether all members have true values, evaluating from the left up to the first
that has not. -/
def allTrue {α ε : Type} (value : α → Except ε Bool) : List α → Except ε Bool
  | [] => .ok true
  | a :: rest => do if ← value a then allTrue value rest else return false

/-- The value of a condition.  The place only goes into diagnostics. -/
def evaluate (vars : Variables) (place : Place) (condition : Text) :
    Except Diagnostic Bool :=
  let t := Text.trim condition
  -- Alternatives bind weaker than conjuncts, so they are cut first.
  if 1 < (operands '|' t).length then
    anyTrue (fun ⟨part, _⟩ => evaluate vars place part) (operands '|' t).attach
  else if 1 < (operands '&' t).length then
    allTrue (fun ⟨part, _⟩ => evaluate vars place part) (operands '&' t).attach
  else evaluateAtom vars place t
termination_by condition.length
decreasing_by
  all_goals
    exact Nat.lt_of_lt_of_le (length_lt_of_mem_operands ‹_› ‹_›) (length_trim_le _)

/-! ## §5 Equations -/

private theorem anyTrue_attach {α ε : Type} (value : α → Except ε Bool) (l : List α) :
    anyTrue (fun (a : { a // a ∈ l }) => value a.1) l.attach = anyTrue value l := by
  have h (l : List α) (p : α → Prop) (hl : ∀ a ∈ l, p a) :
      anyTrue (fun (a : { a // p a }) => value a.1) (l.attachWith p hl) = anyTrue value l := by
    induction l with
    | nil => rfl
    | cons a l ih => simp [anyTrue, ih]
  exact h l (· ∈ l) fun _ ha => ha

private theorem allTrue_attach {α ε : Type} (value : α → Except ε Bool) (l : List α) :
    allTrue (fun (a : { a // a ∈ l }) => value a.1) l.attach = allTrue value l := by
  have h (l : List α) (p : α → Prop) (hl : ∀ a ∈ l, p a) :
      allTrue (fun (a : { a // p a }) => value a.1) (l.attachWith p hl) = allTrue value l := by
    induction l with
    | nil => rfl
    | cons a l ih => simp [allTrue, ih]
  exact h l (· ∈ l) fun _ ha => ha

/-- A condition with several alternatives holds when one of them does. -/
theorem evaluate_of_alternatives (vars : Variables) (place : Place) {condition : Text}
    (h : 1 < (operands '|' (Text.trim condition)).length) :
    evaluate vars place condition
      = anyTrue (evaluate vars place) (operands '|' (Text.trim condition)) := by
  rw [evaluate, if_pos h]
  exact anyTrue_attach (evaluate vars place) _

/-- A single alternative with several conjuncts holds when all of them do. -/
theorem evaluate_of_conjuncts (vars : Variables) (place : Place) {condition : Text}
    (h : ¬ 1 < (operands '|' (Text.trim condition)).length)
    (h' : 1 < (operands '&' (Text.trim condition)).length) :
    evaluate vars place condition
      = allTrue (evaluate vars place) (operands '&' (Text.trim condition)) := by
  rw [evaluate, if_neg h, if_pos h']
  exact allTrue_attach (evaluate vars place) _

/-- A condition without connectives is an atom. -/
theorem evaluate_of_atom (vars : Variables) (place : Place) {condition : Text}
    (h : ¬ 1 < (operands '|' (Text.trim condition)).length)
    (h' : ¬ 1 < (operands '&' (Text.trim condition)).length) :
    evaluate vars place condition = evaluateAtom vars place (Text.trim condition) := by
  rw [evaluate, if_neg h, if_neg h']

end Condition

end CommentSwitch
