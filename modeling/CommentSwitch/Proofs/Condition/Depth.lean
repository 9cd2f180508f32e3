import CommentSwitch.Condition
import CommentSwitch.Proofs.Condition.Operators
import Mathlib.Data.List.Chain
import Mathlib.Logic.Function.Iterate

/-!
# How deep the evaluation of a condition goes

The evaluation of a condition recurses on the operands of a connective.  These are shorter than
the condition, so it comes to an end, but it does so much sooner: an alternative holds no further
`||` to cut it at, and a conjunct is not cut again at all.  This is so for whatever is written in a
condition.  In particular a condition with a dangling `||`, which does not count as a second
alternative, hands it down to its last conjunct, where it does not count either.

- `Condition.evaluateBy`: one level of an evaluation
- `Condition.Calls`: the parts that an evaluation recurses on
- `Condition.not_splits_alternative`, `Condition.not_splits_conjunct`: where the parts are not cut
- `Condition.evaluate_three_levels`: three levels are enough
-/

namespace CommentSwitch

namespace Condition

/-! ## §1 Texts that are not cut -/

/-- Whether a text has several operands around a doubled character. -/
def Splits (c : Char) (t : Text) : Prop := 1 < (operands c t).length

instance (c : Char) (t : Text) : Decidable (Splits c t) :=
  inferInstanceAs (Decidable (1 < (operands c t).length))

section Splitting

variable {c d : Char} {t part left right : Text}

theorem one_lt_length_dropTrailingEmpty_iff {piece : Text} {pieces : List Text} :
    1 < (dropTrailingEmpty (piece :: pieces)).length ↔ ∃ p ∈ pieces, p ≠ [] := by
  rw [dropTrailingEmpty]
  split
  · next hall =>
    have hempty : ∀ p ∈ pieces, p = [] := by simpa using hall
    simpa using hempty
  · next hall =>
    obtain ⟨p, hp, hne⟩ : ∃ p ∈ pieces, p ≠ [] := by simpa using hall
    have hrest : dropTrailingEmpty pieces ≠ [] := by
      cases pieces with
      | nil => cases hp
      | cons next others =>
        rw [dropTrailingEmpty]
        split <;> simp
    have hpos := List.length_pos_of_ne_nil hrest
    simp only [List.length_cons]
    exact ⟨fun _ => ⟨p, hp, hne⟩, fun _ => by omega⟩

/-- A text that is not cut stays so on either side of any other character: only doubled characters
at its end are passed over, and these are all behind it. -/
theorem not_splits_append_cons {x : Char} (hx : x ≠ c) (h : ¬ Splits c (left ++ x :: right)) :
    ¬ Splits c left ∧ ¬ Splits c right := by
  obtain ⟨pieces, last, first, others, hleft, hright, hall⟩ :=
    Text.cutAtTwin_append_cons hx left right
  rw [Splits, operands, hall] at h
  cases pieces with
  | nil =>
    rw [List.nil_append, one_lt_length_dropTrailingEmpty_iff] at h
    constructor
    · simp [Splits, operands, hleft, dropTrailingEmpty]
    · rw [Splits, operands, hright, one_lt_length_dropTrailingEmpty_iff]
      exact h
  | cons piece pieces =>
    -- The character would stand in a second operand.
    rw [List.cons_append, one_lt_length_dropTrailingEmpty_iff] at h
    exact absurd ⟨_, List.mem_append_right _ List.mem_cons_self, by simp⟩ h

/-- Trimming does not make a text fall apart. -/
theorem not_splits_trim (hc : Text.isBlank c = false) (h : ¬ Splits c t) :
    ¬ Splits c (Text.trim t) := by
  have hne {x : Char} (hx : Text.isBlank x = true) : x ≠ c := by
    rintro rfl
    simp [hc] at hx
  have hstart : ¬ Splits c (Text.trimStart t) := by
    have hsplit : Text.leadingBlank t ++ Text.trimStart t = t :=
      Text.leadingBlank_append_trimStart t
    rcases List.eq_nil_or_concat (Text.leadingBlank t) with hnil | ⟨blank, x, hblank⟩
    · rwa [← hsplit, hnil, List.nil_append] at h
    · have hmem : x ∈ Text.leadingBlank t := by simp [hblank]
      have hx : Text.isBlank x = true := Text.isBlank_of_mem_leadingBlank hmem
      rw [← hsplit, hblank, List.concat_eq_append, List.append_assoc] at h
      exact (not_splits_append_cons (hne hx) h).2
  have hsplit : Text.trim t ++ (Text.trimStart t).rtakeWhile Text.isBlank = Text.trimStart t :=
    List.rdropWhile_append_rtakeWhile
  rw [← hsplit] at hstart
  cases hblank : (Text.trimStart t).rtakeWhile Text.isBlank with
  | nil => rwa [hblank, List.append_nil] at hstart
  | cons x rest =>
    have hx : Text.isBlank x = true := List.mem_rtakeWhile_imp (by rw [hblank]; simp)
    rw [hblank] at hstart
    exact (not_splits_append_cons (hne hx) hstart).1

theorem mem_cutAtTwin_of_mem_operands (h : part ∈ operands c t) : part ∈ Text.cutAtTwin c t :=
  (dropTrailingEmpty_sublist _).subset h

/-- An operand is not cut again at the same character. -/
theorem not_splits_operand (h : part ∈ operands c t) : ¬ Splits c part := by
  rw [Splits, operands, Text.cutAtTwin_of_mem (mem_cutAtTwin_of_mem_operands h)]
  simp [dropTrailingEmpty]

/-- An operand is not cut at a character at which the text has not been cut. -/
theorem not_splits_operand_of_not (hcd : d ≠ c) (ht : ¬ Splits c t) (h : part ∈ operands d t) :
    ¬ Splits c part := by
  obtain ⟨before, after, rfl, hbefore, hafter⟩ :=
    Text.exists_around_of_mem_cutAtTwin (mem_cutAtTwin_of_mem_operands h)
  -- Next to it stand characters of its own connective, if any.
  have hfrom : ¬ Splits c (part ++ after) := by
    rcases hbefore with rfl | ⟨left, rfl⟩
    · exact ht
    · rw [List.append_assoc] at ht
      exact (not_splits_append_cons hcd ht).2
  rcases hafter with rfl | ⟨right, rfl⟩
  · rwa [List.append_nil] at hfrom
  · exact (not_splits_append_cons hcd hfrom).1

end Splitting

/-! ## §2 Nested evaluations -/

/-- One level of an evaluation: `inner` evaluates the parts of the condition. -/
def evaluateBy (vars : Variables) (place : Place) (inner : Text → Except Diagnostic Bool)
    (condition : Text) : Except Diagnostic Bool :=
  let t := Text.trim condition
  if Splits '|' t then anyTrue inner (operands '|' t)
  else if Splits '&' t then allTrue inner (operands '&' t)
  else evaluateAtom vars place t

/-- The parts of a condition on which its evaluation recurses, unless the value is known before. -/
inductive Calls (condition : Text) : Text → Prop
  | alternative {part : Text} (hor : Splits '|' (Text.trim condition))
      (hpart : part ∈ operands '|' (Text.trim condition)) : Calls condition part
  | conjunct {part : Text} (hor : ¬ Splits '|' (Text.trim condition))
      (hand : Splits '&' (Text.trim condition))
      (hpart : part ∈ operands '&' (Text.trim condition)) : Calls condition part

/-- The number of levels in an evaluation, told from where the condition is cut first. -/
def levels (condition : Text) : Nat :=
  if Splits '|' (Text.trim condition) then 3
  else if Splits '&' (Text.trim condition) then 2
  else 1

section Nesting

variable {vars : Variables} {place : Place} {condition part : Text}

/-- Evaluation is the recursion that `evaluateBy` is one level of. -/
theorem evaluate_eq_evaluateBy (vars : Variables) (place : Place) (condition : Text) :
    evaluate vars place condition = evaluateBy vars place (evaluate vars place) condition := by
  unfold evaluateBy
  dsimp only
  split
  · next hor => exact evaluate_of_alternatives vars place hor
  · next hor =>
    split
    · next hand => exact evaluate_of_conjuncts vars place hor hand
    · next hand => exact evaluate_of_atom vars place hor hand

/-- One level asks for nothing but the parts. -/
theorem evaluateBy_congr {inner inner' : Text → Except Diagnostic Bool}
    (h : ∀ part, Calls condition part → inner part = inner' part) :
    evaluateBy vars place inner condition = evaluateBy vars place inner' condition := by
  unfold evaluateBy
  dsimp only
  split
  · next hor =>
    apply anyTrue_congr
    intro part hpart
    exact h part (.alternative hor hpart)
  · next hor =>
    split
    · next hand =>
      apply allTrue_congr
      intro part hpart
      exact h part (.conjunct hor hand hpart)
    · rfl

/-- What an evaluation recurses on is shorter than the condition. -/
theorem Calls.length_lt (h : Calls condition part) : part.length < condition.length := by
  have htrim : (Text.trim condition).length ≤ condition.length := length_trim_le condition
  cases h with
  | alternative hor hpart =>
    exact Nat.lt_of_lt_of_le (length_lt_of_mem_operands hpart hor) htrim
  | conjunct hor hand hpart =>
    exact Nat.lt_of_lt_of_le (length_lt_of_mem_operands hpart hand) htrim

/-! ## §3 Levels -/

/-- An alternative is not cut into alternatives again. -/
theorem not_splits_alternative (h : part ∈ operands '|' (Text.trim condition)) :
    ¬ Splits '|' (Text.trim part) := by
  apply not_splits_trim (by decide)
  exact not_splits_operand h

/-- A conjunct is not cut at all: into conjuncts it has been cut already, and the alternatives that
the condition does not have are not to be found in it. -/
theorem not_splits_conjunct (hor : ¬ Splits '|' (Text.trim condition))
    (h : part ∈ operands '&' (Text.trim condition)) :
    ¬ Splits '|' (Text.trim part) ∧ ¬ Splits '&' (Text.trim part) := by
  constructor
  · apply not_splits_trim (by decide)
    exact not_splits_operand_of_not (by decide) hor h
  · apply not_splits_trim (by decide)
    exact not_splits_operand h

theorem levels_le (condition : Text) : levels condition ≤ 3 := by
  unfold levels
  split
  · exact Nat.le_refl 3
  · split <;> omega

theorem levels_pos (condition : Text) : 0 < levels condition := by
  unfold levels
  split
  · exact Nat.succ_pos 2
  · split <;> omega

/-- A part has fewer levels than the condition. -/
theorem Calls.levels_lt (h : Calls condition part) : levels part < levels condition := by
  cases h with
  | alternative hor hpart =>
    have hpart := not_splits_alternative hpart
    rw [levels, levels, if_pos hor, if_neg hpart]
    split <;> omega
  | conjunct hor hand hpart =>
    obtain ⟨hpartOr, hpartAnd⟩ := not_splits_conjunct hor hpart
    rw [levels, levels, if_neg hor, if_pos hand, if_neg hpartOr, if_neg hpartAnd]
    omega

/-- As many levels as a condition has are enough to evaluate it, whatever there is below. -/
theorem iterate_evaluateBy (inner : Text → Except Diagnostic Bool) {n : Nat}
    (hn : levels condition ≤ n) :
    (evaluateBy vars place)^[n] inner condition = evaluate vars place condition := by
  induction n generalizing condition with
  | zero =>
    have hpos := levels_pos condition
    omega
  | succ n ih =>
    rw [Function.iterate_succ_apply', evaluate_eq_evaluateBy]
    apply evaluateBy_congr
    intro part hpart
    have hlevels := hpart.levels_lt
    exact ih (by omega)

/-- A chain of nested evaluations has no more members than its first condition has levels. -/
theorem length_le_levels {rest : List Text} (h : (condition :: rest).IsChain Calls) :
    (condition :: rest).length ≤ levels condition := by
  induction rest generalizing condition with
  | nil => exact levels_pos condition
  | cons part rest ih =>
    obtain ⟨hcalls, hrest⟩ := List.isChain_cons_cons.mp h
    have hlevels := hcalls.levels_lt
    have hlength := ih hrest
    simp only [List.length_cons] at hlength ⊢
    omega

end Nesting

/-- **The evaluation of a condition is never nested more than three deep**, whatever the condition
is.  It recurses on parts that are shorter than the condition, and on nothing else.  A chain of
nested evaluations has no more than three members, and three levels of the recursion give the value
of every condition, whatever a fourth one would do.  This is because an alternative is not cut into
alternatives again, and a conjunct is not cut again at all. -/
theorem evaluate_three_levels (vars : Variables) (place : Place) :
    (∀ condition, evaluate vars place condition =
      evaluateBy vars place (evaluate vars place) condition) ∧
    (∀ condition inner inner', (∀ part, Calls condition part → inner part = inner' part) →
      evaluateBy vars place inner condition = evaluateBy vars place inner' condition) ∧
    (∀ condition part, Calls condition part → part.length < condition.length) ∧
    (∀ calls : List Text, calls.IsChain Calls → calls.length ≤ 3) ∧
    (∀ inner condition,
      (evaluateBy vars place)^[3] inner condition = evaluate vars place condition) ∧
    (∀ condition part, part ∈ operands '|' (Text.trim condition) →
      ¬ Splits '|' (Text.trim part)) ∧
    (∀ condition part, ¬ Splits '|' (Text.trim condition) →
      part ∈ operands '&' (Text.trim condition) →
      ¬ Splits '|' (Text.trim part) ∧ ¬ Splits '&' (Text.trim part)) := by
  refine ⟨evaluate_eq_evaluateBy vars place, ?parts, ?shorter, ?chains, ?enough, ?alternatives,
    ?conjuncts⟩
  case parts => exact fun condition inner inner' => evaluateBy_congr
  case shorter => exact fun condition part => Calls.length_lt
  case chains =>
    intro calls hchain
    cases calls with
    | nil => exact Nat.zero_le 3
    | cons condition rest => exact (length_le_levels hchain).trans (levels_le condition)
  case enough => exact fun inner condition => iterate_evaluateBy inner (levels_le condition)
  case alternatives => exact fun condition part => not_splits_alternative
  case conjuncts => exact fun condition part => not_splits_conjunct

/-- Three levels do occur.  A dangling `||` does not lead to a further one: it stays with the last
conjunct, which is looked up as a name. -/
theorem evaluate_three_levels_dangling :
    (["a||&&b".toList, "&&b".toList, "b".toList].IsChain Calls ∧
      ["a||&&b".toList, "&&b".toList, "b".toList].length ≤ 3) ∧
    ("b||".toList.length < "a &&b||".toList.length ∧ ¬ Splits '|' (Text.trim "b||".toList)) ∧
    ¬ Splits '|' (Text.trim "&&b".toList) ∧
    evaluateBy .empty .unknown (fun _ => .ok false) "a||&&b".toList = .ok false ∧
    (evaluateBy .empty .unknown)^[3] (fun _ => .ok true) "a||&&b||||".toList = .ok false := by
  obtain ⟨-, hparts, hshorter, hchains, henough, halternatives, hconjuncts⟩ :=
    evaluate_three_levels .empty .unknown
  have houter : Calls "a||&&b".toList "&&b".toList := .alternative (by decide) (by decide)
  have hinner : Calls "&&b".toList "b".toList := .conjunct (by decide) (by decide) (by decide)
  have hlast : Calls "a &&b||".toList "b||".toList :=
    .conjunct (by decide) (by decide) (by decide)
  have hchain : ["a||&&b".toList, "&&b".toList, "b".toList].IsChain Calls :=
    .cons_cons houter (.cons_cons hinner (.singleton _))
  refine ⟨⟨hchain, hchains _ hchain⟩, ⟨hshorter _ _ hlast, ?_⟩, ?_, ?_, ?_⟩
  · exact (hconjuncts "a &&b||".toList _ (by decide) (by decide)).1
  · exact halternatives "a||&&b".toList _ (by decide)
  · -- What is no part of the condition may have any value.
    rw [hparts _ _ (fun part => .ok (part == "a||&&b".toList))]
    · decide +kernel
    · intro part hpart
      have hshort := hshorter _ _ hpart
      have hne : part ≠ "a||&&b".toList := by
        rintro rfl
        exact absurd hshort (Nat.lt_irrefl _)
      exact congrArg Except.ok (beq_eq_false_iff_ne.mpr hne).symm
  · rw [henough]
    decide +kernel

end Condition

end CommentSwitch
