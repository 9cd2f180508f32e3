import CommentSwitch.Proofs.Condition.Operators
import CommentSwitch.Proofs.Condition.Readings
import CommentSwitch.Proofs.Conversion.Run

/-!
# Variables that a file does not name

Every name that is looked up while a file is converted stands somewhere in one of its `if` or
`elseif` lines: what is looked up has been cut out of the line and trimmed, and a value that has
been found is not looked up again.  So variables whose names stand in none of these lines are of no
account, neither to the output nor to a diagnostic.

- `Condition.AgreeOn`: variables that do not differ on the names within a text
- `Condition.evaluate_congr`: conditions under such variables
- `Conversion.advance_congr`, `Conversion.convertFrom_congr`: lines and files under such variables
- `Conversion.convert_congr`: variables that a file does not name do not interfere
-/

namespace CommentSwitch

namespace Condition

/-! ## §1 Variables that agree -/

/-- Whatever part of a text is taken for a name, it has the same value under both variables, or
none under either. -/
def AgreeOn (vars vars' : Variables) (t : Text) : Prop :=
  ∀ name, name <:+: t → vars.get? name = vars'.get? name

section Agreement

variable {vars vars' : Variables} {part t : Text}

theorem AgreeOn.within (h : AgreeOn vars vars' t) (hpart : part <:+: t) :
    AgreeOn vars vars' part :=
  fun name hname => h name (hname.trans hpart)

theorem AgreeOn.get?_eq (h : AgreeOn vars vars' t) : vars.get? t = vars'.get? t :=
  h t (List.infix_refl t)

theorem AgreeOn.trim (h : AgreeOn vars vars' t) : AgreeOn vars vars' (Text.trim t) :=
  h.within (Text.isInfix_trim t)

/-- An operand of a connective is a piece of the condition. -/
theorem infix_of_mem_operands {c : Char} (h : part ∈ operands c t) : part <:+: t := by
  have hpiece : part ∈ Text.cutAtTwin c t := (dropTrailingEmpty_sublist _).subset h
  have hinfix : part <:+: [c, c].intercalate (Text.cutAtTwin c t) := Text.infix_intercalate hpiece
  rwa [Text.intercalate_cutAtTwin] at hinfix

/-! ## §2 Conditions -/

theorem operandValue_congr (h : AgreeOn vars vars' t) (place : Place) :
    operandValue vars place t = operandValue vars' place t := by
  have hresolve : vars.resolve (Text.trim t) = vars'.resolve (Text.trim t) := by
    rw [Variables.resolve, Variables.resolve, h.trim.get?_eq]
  simp only [operandValue, hresolve]

theorem nameHolds_congr (h : AgreeOn vars vars' t) : nameHolds vars t = nameHolds vars' t := by
  rw [nameHolds, nameHolds, h.get?_eq]

theorem evaluateAtom_congr (h : AgreeOn vars vars' t) (place : Place) :
    evaluateAtom vars place t = evaluateAtom vars' place t := by
  unfold evaluateAtom
  cases hsplit : Comparison.split? t with
  | none => exact congrArg Except.ok (nameHolds_congr h)
  | some cut =>
    obtain ⟨lhs, op, rhs⟩ := cut
    have hcut : t = lhs ++ op.token ++ rhs := (Comparison.preferred_of_split? hsplit).way.eq
    have hlhs : lhs <:+: t := by
      rw [hcut, List.append_assoc]
      exact (List.prefix_append _ _).isInfix
    have hrhs : rhs <:+: t := by
      rw [hcut]
      exact (List.suffix_append _ _).isInfix
    simp only [operandValue_congr (h.within hlhs), operandValue_congr (h.within hrhs)]

/-- A condition has the same value, or the same fault, under variables that agree on it. -/
theorem evaluate_congr (h : AgreeOn vars vars' t) (place : Place) :
    evaluate vars place t = evaluate vars' place t := by
  induction t using evaluate.induct with
  | case1 t _ hor ih =>
    rw [evaluate_of_alternatives vars place hor, evaluate_of_alternatives vars' place hor]
    apply anyTrue_congr
    intro part hpart
    exact ih part hpart (h.trim.within (infix_of_mem_operands hpart))
  | case2 t _ hor hand ih =>
    rw [evaluate_of_conjuncts vars place hor hand, evaluate_of_conjuncts vars' place hor hand]
    apply allTrue_congr
    intro part hpart
    exact ih part hpart (h.trim.within (infix_of_mem_operands hpart))
  | case3 t _ hor hand =>
    rw [evaluate_of_atom vars place hor hand, evaluate_of_atom vars' place hor hand]
    exact evaluateAtom_congr h.trim place

end Agreement

end Condition

/-! ## §3 Lines -/

/-- What stands behind the token of an `if` or `elseif` line is the end of the trimmed line. -/
theorem Keywords.suffix_of_classify {k : Keywords} {trimmed rest : Text}
    (h : k.classify trimmed = .opening rest ∨ k.classify trimmed = .branch rest) :
    rest <:+ trimmed := by
  unfold classify at h
  split at h
  · next hif =>
    obtain rfl : _ = rest := by simpa using h
    exact ⟨k.ifToken, (Text.afterToken?_eq_some_iff.mp hif).symm⟩
  · split at h
    · next helseif =>
      obtain rfl : _ = rest := by simpa using h
      exact ⟨k.elseifToken, (Text.afterToken?_eq_some_iff.mp helseif).symm⟩
    · -- The other directives have no condition.
      split at h
      · simp at h
      · split at h <;> simp at h

namespace Conversion

open Condition (AgreeOn)
open Keywords (Directive)

/-- Whether a line has a condition, so that it is an `if` or an `elseif` line. -/
def HasCondition (k : Keywords) (line : Text) : Prop :=
  ∃ rest, k.classify (Text.trim line) = .opening rest ∨ k.classify (Text.trim line) = .branch rest

section Agreement

variable {vars vars' : Variables} {k : Keywords}

theorem conditionValue_congr {rest : Text} (h : AgreeOn vars vars' rest) (place : Place) :
    conditionValue vars place rest = conditionValue vars' place rest := by
  unfold conditionValue
  split
  · exact Condition.evaluate_congr h.trim place
  · rfl

/-- A line opens and closes the same blocks under variables that agree on its condition, if it has
one. -/
theorem advance_congr {line : Text} (h : HasCondition k line → AgreeOn vars vars' line)
    (place : Place) (indent : Nat) (stack : BlockStack) :
    advance vars place indent stack (k.classify (Text.trim line)) =
      advance vars' place indent stack (k.classify (Text.trim line)) := by
  have hvalue {rest : Text} (hkind : k.classify (Text.trim line) = .opening rest ∨
      k.classify (Text.trim line) = .branch rest) :
      conditionValue vars place rest = conditionValue vars' place rest := by
    have hinfix : rest <:+: line :=
      (Keywords.suffix_of_classify hkind).isInfix.trans (Text.isInfix_trim line)
    exact conditionValue_congr ((h ⟨rest, hkind⟩).within hinfix) place
  cases hkind : k.classify (Text.trim line) with
  | opening rest => rw [advance, advance, hvalue (.inl hkind)]
  | branch rest =>
    cases stack with
    | nil => rfl
    | cons block outer =>
      rw [advance, advance, enterBranch, enterBranch, hvalue (.inr hkind)]
  | otherwise => rfl
  | closing => rfl
  | code => rfl

/-! ## §4 Files -/

theorem convertFrom_congr {lines : List Text}
    (h : ∀ line ∈ lines, HasCondition k line → AgreeOn vars vars' line) (strip : Bool)
    (file : Option Text) (count : Nat) (stack : BlockStack) :
    convertFrom vars k strip file count stack lines =
      convertFrom vars' k strip file count stack lines := by
  induction lines generalizing count stack with
  | nil => rfl
  | cons line rest ih =>
    obtain ⟨hline, hrest⟩ := List.forall_mem_cons.mp h
    rw [convertFrom_cons, convertFrom_cons, advance_congr hline]
    simp only [ih hrest]

end Agreement

/-- **Variables that a file does not name do not interfere**: if two sets of variables agree on
whatever stands in an `if` or `elseif` line, they lead to the same output, or to the same
diagnostic. -/
theorem convert_congr {vars vars' : Variables} {keywords : KeywordRegistry} {file : Option Text}
    {lines : List Text}
    (h : ∀ line ∈ lines, HasCondition (keywords.forFile file) line →
      ∀ name, name <:+: line → vars.get? name = vars'.get? name) (strip : Bool) :
    convert ⟨vars, keywords, strip⟩ file lines = convert ⟨vars', keywords, strip⟩ file lines :=
  convertFrom_congr h strip file 0 []

/-- Variables of which the first has the name of the second as its value. -/
def nameAsValue (value : Text) : Variables :=
  (Dictionary.ofList [("a".toList, "wide".toList)]).insert "wide".toList value

/-- A file that names the first of these variables only. -/
def firstNamed : List Text :=
  ["//#if b".toList, "x".toList, "//#elseif a<3".toList, "y".toList, "//#endif".toList]

/-- The value of the first variable is quoted but not looked up, so it makes no difference what the
second one is. -/
theorem convert_congr_nameAsValue :
    convert ⟨nameAsValue "1".toList, .empty, true⟩ none firstNamed =
        convert ⟨nameAsValue "7".toList, .empty, true⟩ none firstNamed ∧
      convert ⟨nameAsValue "7".toList, .empty, true⟩ none firstNamed =
        .error ⟨.notInteger "wide".toList, ⟨some 3, none⟩⟩ := by
  have hletter : ∀ line ∈ firstNamed, 'w' ∉ line := by decide
  have hagree : ∀ line ∈ firstNamed, ∀ name, name <:+: line →
      (nameAsValue "1".toList).get? name = (nameAsValue "7".toList).get? name := by
    intro line hline name hname
    have hne : name ≠ "wide".toList := by
      rintro rfl
      exact hletter line hline (hname.subset (by decide))
    rw [nameAsValue, nameAsValue, Dictionary.get?_insert, Dictionary.get?_insert, if_neg hne,
      if_neg hne]
  exact ⟨convert_congr (fun line hline _ => hagree line hline) true, by decide +kernel⟩

end Conversion

end CommentSwitch
