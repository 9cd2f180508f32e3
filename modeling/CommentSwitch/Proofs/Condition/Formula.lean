import CommentSwitch.Proofs.Condition.Operators
import Mathlib.Data.List.Forall2

/-!
# Formulas

A formula is a series of alternatives, an alternative a series of atoms, and an atom a name
or a comparison of two words.  The same formula can be written with more or less blank; all
conditions it is written as have its value.

- `Condition.Formula.value`: the value of a formula, decided from the left
- `Condition.Formula.WrittenAs`: the conditions a formula is written as
- `Condition.Trimmable.joined`: written forms stay such when they are trimmed
- `Condition.evaluate_formula`: the evaluation of a condition finds the value of its formula
-/

namespace CommentSwitch

namespace Condition

/-! ## §1 Formulas -/

/-- The characters that words do without. -/
def reserved : Text := ['|', '&', '=', '!', '<', '>', '\n']

/-- A name or an operand: neither empty nor surrounded by blank, and without operators. -/
structure Word where
  text : Text
  trimmed : Text.trim text = text
  ne_nil : text ≠ []
  plain : ∀ c ∈ text, c ∉ reserved

/-- A condition without connectives. -/
inductive Atom
  | name (word : Word)
  | comparison (lhs : Word) (op : Comparison) (rhs : Word)

/-- At least one of something. -/
structure Series (α : Type) where
  first : α
  others : List α

/-- The members of a series, in order. -/
def Series.toList {α : Type} (s : Series α) : List α := s.first :: s.others

/-- Atoms of which all have to hold. -/
abbrev Conjunction := Series Atom

/-- Alternatives of which one has to hold. -/
abbrev Formula := Series Conjunction

/-! ## §2 Values -/

section Values

variable (vars : Variables) (place : Place)

/-- The first value that is not the usual one, if there is any. -/
def firstOther {α : Type} [DecidableEq α] (usual : α) (values : List α) : α :=
  (values.find? fun v => decide (v ≠ usual)).getD usual

/-- The value of an atom.  An operand that names a variable stands for its value, once; of
two operands that are no integers the left one is reported. -/
def Atom.value : Atom → Except Diagnostic Bool
  | .name word =>
    match vars.get? word.text with
    | none => .ok false
    | some value =>
      match Text.toInt64? value with
      | some n => .ok (n != 0)
      | none => .ok true
  | .comparison lhs op rhs =>
    match Text.toInt64? (vars.resolve lhs.text), Text.toInt64? (vars.resolve rhs.text) with
    | some m, some n => .ok (op.holds m n)
    | some _, none => .error ⟨.notInteger (vars.resolve rhs.text), place⟩
    | none, _ => .error ⟨.notInteger (vars.resolve lhs.text), place⟩

/-- The first atom that is not true decides. -/
def Conjunction.value (c : Conjunction) : Except Diagnostic Bool :=
  firstOther (.ok true) (c.toList.map (Atom.value vars place))

/-- The first alternative that is not false decides. -/
def Formula.value (f : Formula) : Except Diagnostic Bool :=
  firstOther (.ok false) (f.toList.map (Conjunction.value vars place))

/-- The atom is reached from the left: the alternatives before its own are false, and the
atoms before it in its own are true. -/
def Formula.Reaches (f : Formula) (a : Atom) : Prop :=
  ∃ before c after earlier later, f.toList = before ++ c :: after ∧
    (∀ c' ∈ before, Conjunction.value vars place c' = .ok false) ∧
    c.toList = earlier ++ a :: later ∧
    ∀ a' ∈ earlier, Atom.value vars place a' = .ok true

end Values

section Values

variable {vars : Variables} {place : Place}

theorem firstOther_cons {α : Type} [DecidableEq α] (usual v : α) (values : List α) :
    firstOther usual (v :: values) = if v = usual then firstOther usual values else v := by
  by_cases h : v = usual <;> simp [firstOther, h]

/-- An unusual value is found behind usual ones only. -/
theorem firstOther_map_eq_iff {α β : Type} [DecidableEq α] {usual v : α} {value : β → α}
    {l : List β} (hv : v ≠ usual) :
    firstOther usual (l.map value) = v ↔
      ∃ before b after, l = before ++ b :: after ∧ (∀ b' ∈ before, value b' = usual) ∧
        value b = v := by
  induction l with
  | nil =>
    constructor
    · intro h
      exact absurd h.symm hv
    · rintro ⟨before, b, after, hsplit, -⟩
      simp at hsplit
  | cons a rest ih =>
    rw [List.map_cons, firstOther_cons]
    constructor
    · intro h
      split at h
      · next ha =>
        obtain ⟨before, b, after, rfl, hbefore, hb⟩ := ih.mp h
        exact ⟨a :: before, b, after, rfl, List.forall_mem_cons.mpr ⟨ha, hbefore⟩, hb⟩
      · exact ⟨[], a, rest, rfl, by simp, h⟩
    · rintro ⟨before, b, after, hsplit, hbefore, hb⟩
      cases before with
      | nil =>
        cases hsplit
        rw [if_neg (by rwa [hb]), hb]
      | cons a' before =>
        cases hsplit
        obtain ⟨ha, hbefore⟩ := List.forall_mem_cons.mp hbefore
        rw [if_pos ha]
        exact ih.mpr ⟨before, b, after, rfl, hbefore, hb⟩

/-- Evaluating from the left up to the first that holds finds the first that is not false. -/
theorem anyTrue_eq_firstOther {α : Type} (value : α → Except Diagnostic Bool) (l : List α) :
    anyTrue value l = firstOther (.ok false) (l.map value) := by
  induction l with
  | nil => rfl
  | cons a rest ih =>
    rw [anyTrue, List.map_cons, firstOther_cons, ih]
    cases value a with
    | error d => rfl
    | ok holds => cases holds <;> rfl

theorem allTrue_eq_firstOther {α : Type} (value : α → Except Diagnostic Bool) (l : List α) :
    allTrue value l = firstOther (.ok true) (l.map value) := by
  induction l with
  | nil => rfl
  | cons a rest ih =>
    rw [allTrue, List.map_cons, firstOther_cons, ih]
    cases value a with
    | error d => rfl
    | ok holds => cases holds <;> rfl

/-- The diagnostic of a formula is that of the first atom that has one, if it is reached. -/
theorem Formula.value_eq_error_iff {f : Formula} {d : Diagnostic} :
    f.value vars place = .error d ↔
      ∃ a, f.Reaches vars place a ∧ a.value vars place = .error d := by
  rw [Formula.value, firstOther_map_eq_iff (by simp)]
  constructor
  · rintro ⟨before, c, after, hf, hbefore, hc⟩
    obtain ⟨earlier, a, later, ha, hearlier, herror⟩ := (firstOther_map_eq_iff (by simp)).mp hc
    exact ⟨a, ⟨before, c, after, earlier, later, hf, hbefore, ha, hearlier⟩, herror⟩
  · rintro ⟨a, ⟨before, c, after, earlier, later, hf, hbefore, ha, hearlier⟩, herror⟩
    exact ⟨before, c, after, hf, hbefore,
      (firstOther_map_eq_iff (by simp)).mpr ⟨earlier, a, later, ha, hearlier, herror⟩⟩

/-- What an atom reports is one of its operands that stands for no integer. -/
theorem Atom.value_eq_error {a : Atom} {d : Diagnostic} (h : a.value vars place = .error d) :
    ∃ word : Word, Text.toInt64? (vars.resolve word.text) = none ∧
      d = ⟨.notInteger (vars.resolve word.text), place⟩ := by
  cases a with
  | name word =>
    rw [Atom.value] at h
    repeat' split at h
    all_goals cases h
  | comparison lhs op rhs =>
    rw [Atom.value] at h
    split at h
    · cases h
    · next hrhs =>
      cases h
      exact ⟨rhs, hrhs, rfl⟩
    · next hlhs =>
      cases h
      exact ⟨lhs, hlhs, rfl⟩

end Values

/-! ## §3 Written forms -/

/-- Blank that may stand around words. -/
def IsGap (t : Text) : Prop := ∀ c ∈ t, Text.isBlank c = true ∧ c ≠ '\n'

instance (t : Text) : Decidable (IsGap t) :=
  List.decidableBAll (fun c => Text.isBlank c = true ∧ c ≠ '\n') t

/-- The texts of a word: it may have blank around it. -/
def Word.WrittenAs (word : Word) (t : Text) : Prop :=
  ∃ before after, IsGap before ∧ IsGap after ∧ t = before ++ word.text ++ after

/-- The texts of an atom. -/
def Atom.WrittenAs : Atom → Text → Prop
  | .name word, t => word.WrittenAs t
  | .comparison lhs op rhs, t =>
    ∃ left right, lhs.WrittenAs left ∧ rhs.WrittenAs right ∧ t = left ++ op.token ++ right

/-- The texts of a series: those of its members, with a separator between them. -/
def Series.Joined {α : Type} (sep : Text) (Written : α → Text → Prop) (s : Series α)
    (t : Text) : Prop :=
  ∃ pieces, List.Forall₂ Written s.toList pieces ∧ t = sep.intercalate pieces

/-- The texts of a conjunction. -/
def Conjunction.WrittenAs (c : Conjunction) (t : Text) : Prop :=
  c.Joined ['&', '&'] Atom.WrittenAs t

/-- The texts of a formula. -/
def Formula.WrittenAs (f : Formula) (t : Text) : Prop :=
  f.Joined ['|', '|'] Conjunction.WrittenAs t

/-- Written forms that are never blank and stay such when they are trimmed. -/
structure Trimmable {α : Type} (Written : α → Text → Prop) : Prop where
  isBlankLine : ∀ {a t}, Written a t → Text.isBlankLine t = false
  trimStart : ∀ {a t}, Written a t → Written a (Text.trimStart t)
  trimEnd : ∀ {a t}, Written a t → Written a (Text.trimEnd t)

section Trimming

variable {α : Type} {Written : α → Text → Prop} {sep : Text}

theorem Trimmable.trim (h : Trimmable Written) {a : α} {t : Text} (ht : Written a t) :
    Written a (Text.trim t) := h.trimEnd (h.trimStart ht)

theorem Trimmable.ne_nil (h : Trimmable Written) {a : α} {t : Text} (ht : Written a t) :
    t ≠ [] := by
  rintro rfl
  cases h.isBlankLine ht

/-- Only the last piece of a joined text is trimmed at the end. -/
theorem Trimmable.exists_trimEnd_intercalate (h : Trimmable Written) {l : List α}
    {pieces : List Text} (hpieces : List.Forall₂ Written l pieces) (hne : pieces ≠ []) :
    ∃ pieces', List.Forall₂ Written l pieces' ∧
      Text.trimEnd (sep.intercalate pieces) = sep.intercalate pieces' := by
  induction hpieces with
  | nil => exact absurd rfl hne
  | @cons a piece l pieces hpiece hrest ih =>
    cases hrest with
    | nil => exact ⟨[Text.trimEnd piece], .cons (h.trimEnd hpiece) .nil, by simp⟩
    | @cons b next l pieces hnext hrest =>
      obtain ⟨pieces', hpieces', hjoin⟩ := ih (List.cons_ne_nil _ _)
      cases hpieces' with
      | @cons _ next' _ pieces' hnext' hrest' =>
        refine ⟨piece :: next' :: pieces', .cons hpiece (.cons hnext' hrest'), ?_⟩
        rw [Text.trimEnd_intercalate_cons (h.isBlankLine hnext), hjoin,
          List.intercalate_cons_cons]

theorem Series.pieces_ne_nil {s : Series α} {pieces : List Text}
    (h : List.Forall₂ Written s.toList pieces) : pieces ≠ [] := by
  rintro rfl
  cases h

/-- Joined texts stay such when they are trimmed. -/
theorem Trimmable.joined (h : Trimmable Written) (sep : Text) :
    Trimmable (Series.Joined sep Written) where
  isBlankLine := by
    rintro s _ ⟨_, hpieces, rfl⟩
    cases hpieces with
    | cons hfirst => exact Text.isBlankLine_intercalate_cons (h.isBlankLine hfirst)
  trimStart := by
    rintro s _ ⟨_, hpieces, rfl⟩
    cases hpieces with
    | cons hfirst hothers =>
      exact ⟨_, .cons (h.trimStart hfirst) hothers,
        Text.trimStart_intercalate (h.isBlankLine hfirst)⟩
  trimEnd := by
    rintro s _ ⟨_, hpieces, rfl⟩
    exact h.exists_trimEnd_intercalate hpieces (Series.pieces_ne_nil hpieces)

end Trimming

/-- What holds of all written forms holds of the pieces of a joined text. -/
theorem forall_mem_of_forall₂ {α : Type} {Written : α → Text → Prop} {P : Text → Prop}
    {l : List α} {pieces : List Text} (hpieces : List.Forall₂ Written l pieces)
    (h : ∀ a t, Written a t → P t) : ∀ piece ∈ pieces, P piece := by
  induction hpieces with
  | nil => simp
  | cons hpiece _ ih => exact List.forall_mem_cons.mpr ⟨h _ _ hpiece, ih⟩

theorem map_eq_of_forall₂ {α β : Type} {f : α → β} {g : Text → β} {l : List α}
    {pieces : List Text} (h : List.Forall₂ (fun a piece => g piece = f a) l pieces) :
    pieces.map g = l.map f := by
  induction h with
  | nil => rfl
  | cons hpiece _ ih => rw [List.map_cons, List.map_cons, hpiece, ih]

section Words

variable {word : Word} {t : Text}

theorem not_mem_reserved_of_isBlank {c : Char} (hblank : Text.isBlank c = true)
    (hc : c ≠ '\n') : c ∉ reserved := by
  intro hmem
  simp only [reserved, List.mem_cons, List.not_mem_nil, or_false] at hmem
  rcases hmem with rfl | rfl | rfl | rfl | rfl | rfl | rfl <;> first
    | exact hc rfl
    | exact absurd hblank (by decide)

theorem Word.WrittenAs.plain (h : word.WrittenAs t) : ∀ c ∈ t, c ∉ reserved := by
  obtain ⟨before, after, hbefore, hafter, rfl⟩ := h
  intro c hc
  simp only [List.mem_append] at hc
  rcases hc with (hc | hc) | hc
  · exact not_mem_reserved_of_isBlank (hbefore c hc).1 (hbefore c hc).2
  · exact word.plain c hc
  · exact not_mem_reserved_of_isBlank (hafter c hc).1 (hafter c hc).2

theorem Word.WrittenAs.trim_eq (h : word.WrittenAs t) : Text.trim t = word.text := by
  obtain ⟨before, after, hbefore, hafter, rfl⟩ := h
  rw [Text.trim_append_blank fun c hc => (hafter c hc).1,
    Text.trim_append_of_blank fun c hc => (hbefore c hc).1, word.trimmed]

theorem Word.isBlankLine (word : Word) : Text.isBlankLine word.text = false :=
  Text.isBlankLine_of_trimmed word.trimmed word.ne_nil

theorem Word.trimmable : Trimmable Word.WrittenAs where
  isBlankLine := by
    rintro word _ ⟨before, after, -, -, rfl⟩
    rw [Text.isBlankLine, List.all_append, List.all_append, ← Text.isBlankLine,
      ← Text.isBlankLine, word.isBlankLine, Bool.and_false, Bool.false_and]
  trimStart := by
    rintro word _ ⟨before, after, hbefore, hafter, rfl⟩
    refine ⟨[], after, by simp [IsGap], hafter, ?_⟩
    rw [List.append_assoc, Text.trimStart_append_of_blank fun c hc => (hbefore c hc).1,
      Text.trimStart_append_of_trimmed word.trimmed word.ne_nil, List.nil_append]
  trimEnd := by
    rintro word _ ⟨before, after, hbefore, hafter, rfl⟩
    refine ⟨before, [], hbefore, by simp [IsGap], ?_⟩
    rw [Text.trimEnd_append_blank fun c hc => (hafter c hc).1,
      Text.trimEnd_append word.isBlankLine, Text.trimEnd_eq_self word.trimmed, List.append_nil]

end Words

section Atoms

variable {a : Atom} {c : Conjunction} {f : Formula} {t : Text}

theorem Atom.trimmable : Trimmable Atom.WrittenAs where
  isBlankLine := by
    rintro a t h
    cases a with
    | name word => exact Word.trimmable.isBlankLine h
    | comparison lhs op rhs =>
      obtain ⟨left, right, hleft, -, rfl⟩ := h
      rw [Text.isBlankLine, List.all_append, List.all_append, ← Text.isBlankLine,
        Word.trimmable.isBlankLine hleft]
      rfl
  trimStart := by
    rintro a t h
    cases a with
    | name word => exact Word.trimmable.trimStart h
    | comparison lhs op rhs =>
      obtain ⟨left, right, hleft, hright, rfl⟩ := h
      refine ⟨_, right, Word.trimmable.trimStart hleft, hright, ?_⟩
      rw [List.append_assoc, Text.trimStart_append (Word.trimmable.isBlankLine hleft),
        List.append_assoc]
  trimEnd := by
    rintro a t h
    cases a with
    | name word => exact Word.trimmable.trimEnd h
    | comparison lhs op rhs =>
      obtain ⟨left, right, hleft, hright, rfl⟩ := h
      exact ⟨left, _, hleft, Word.trimmable.trimEnd hright,
        Text.trimEnd_append (Word.trimmable.isBlankLine hright)⟩

theorem Conjunction.trimmable : Trimmable Conjunction.WrittenAs :=
  Atom.trimmable.joined ['&', '&']

theorem Formula.trimmable : Trimmable Formula.WrittenAs :=
  Conjunction.trimmable.joined ['|', '|']

/-- A connective stands between the members of a series and not within them. -/
theorem Atom.WrittenAs.not_mem (h : a.WrittenAs t) : '|' ∉ t ∧ '&' ∉ t := by
  have hword {word : Word} {t : Text} (hw : word.WrittenAs t) : '|' ∉ t ∧ '&' ∉ t :=
    ⟨fun hbar => hw.plain _ hbar (by decide), fun hamp => hw.plain _ hamp (by decide)⟩
  cases a with
  | name word => exact hword h
  | comparison lhs op rhs =>
    obtain ⟨left, right, hleft, hright, rfl⟩ := h
    have htoken : '|' ∉ op.token ∧ '&' ∉ op.token := by cases op <;> decide
    simp only [List.mem_append, not_or]
    exact ⟨⟨⟨(hword hleft).1, htoken.1⟩, (hword hright).1⟩,
      ⟨⟨(hword hleft).2, htoken.2⟩, (hword hright).2⟩⟩

theorem Conjunction.WrittenAs.not_mem (h : c.WrittenAs t) : '|' ∉ t := by
  obtain ⟨pieces, hpieces, rfl⟩ := h
  refine Text.not_mem_intercalate (by decide) ?_
  exact forall_mem_of_forall₂ hpieces fun _ _ ha => Atom.WrittenAs.not_mem ha |>.1

end Atoms

/-! ## §4 Evaluation -/

section Evaluation

variable {vars : Variables} {place : Place} {word : Word} {a : Atom} {c : Conjunction}
  {f : Formula} {t : Text}

theorem Word.WrittenAs.operatorFree (h : word.WrittenAs t) : Comparison.OperatorFree t := by
  intro d hd hsign
  refine h.plain d hd ?_
  simp only [Comparison.signs, List.mem_cons, List.not_mem_nil, or_false] at hsign
  rcases hsign with rfl | rfl | rfl | rfl <;> decide

/-- A trimmed text of an atom has its value. -/
theorem evaluateAtom_of_writtenAs (h : a.WrittenAs t) (ht : Text.trim t = t) :
    evaluateAtom vars place t = a.value vars place := by
  cases a with
  | name word =>
    have hword : word.WrittenAs t := h
    rw [evaluateAtom, Comparison.split?_eq_none hword.operatorFree, Atom.value]
    obtain rfl : t = word.text := ht.symm.trans hword.trim_eq
    simp only [nameHolds]
    cases vars.get? word.text with
    | none => rfl
    | some value => cases hn : Text.toInt64? value <;> simp [hn]
  | comparison lhs op rhs =>
    obtain ⟨left, right, hleft, hright, rfl⟩ := h
    have hline {word : Word} {t : Text} (hw : word.WrittenAs t) : '\n' ∉ t :=
      fun hmem => hw.plain _ hmem (by decide)
    have hsplit : Comparison.split? (left ++ op.token ++ right) = some (left, op, right) :=
      Comparison.split?_append hleft.operatorFree (Word.trimmable.ne_nil hleft)
        hright.operatorFree (Word.trimmable.ne_nil hright) ⟨hline hleft, hline hright⟩
    rw [evaluateAtom, hsplit, Atom.value]
    simp only [operandValue, hleft.trim_eq, hright.trim_eq]
    cases Text.toInt64? (vars.resolve lhs.text) with
    | none => rfl
    | some m => cases Text.toInt64? (vars.resolve rhs.text) <;> rfl

theorem evaluate_atom (h : a.WrittenAs t) : evaluate vars place t = a.value vars place := by
  have htrim := Atom.trimmable.trim h
  rw [evaluate_eq_evaluateAtom htrim.not_mem.1 htrim.not_mem.2]
  exact evaluateAtom_of_writtenAs htrim (Text.trim_trim t)

theorem evaluate_conjunction (h : c.WrittenAs t) :
    evaluate vars place t = c.value vars place := by
  have htrim := Conjunction.trimmable.trim h
  have hbar := htrim.not_mem
  obtain ⟨pieces, hpieces, hjoin⟩ := htrim
  have hpiece : ∀ piece ∈ pieces, '&' ∉ piece ∧ piece ≠ [] :=
    forall_mem_of_forall₂ hpieces fun _ _ ha =>
      ⟨(Atom.WrittenAs.not_mem ha).2, Atom.trimmable.ne_nil ha⟩
  rw [evaluate_eq_allTrue hbar hjoin (Series.pieces_ne_nil hpieces) hpiece,
    allTrue_eq_firstOther, Conjunction.value,
    map_eq_of_forall₂ (hpieces.imp fun _ _ ha => evaluate_atom ha)]

theorem evaluate_alternatives (h : f.WrittenAs t) :
    evaluate vars place t = f.value vars place := by
  obtain ⟨pieces, hpieces, hjoin⟩ := Formula.trimmable.trim h
  have hpiece : ∀ piece ∈ pieces, '|' ∉ piece ∧ piece ≠ [] :=
    forall_mem_of_forall₂ hpieces fun _ _ hc =>
      ⟨Conjunction.WrittenAs.not_mem hc, Conjunction.trimmable.ne_nil hc⟩
  rw [evaluate_eq_anyTrue hjoin (Series.pieces_ne_nil hpieces) hpiece,
    anyTrue_eq_firstOther, Formula.value,
    map_eq_of_forall₂ (hpieces.imp fun _ _ hc => evaluate_conjunction hc)]

end Evaluation

/-- The word of one letter. -/
def Word.letter (c : Char) (hblank : Text.isBlank c = false) (hplain : c ∉ reserved) : Word where
  text := [c]
  trimmed := Text.trim_eq_self (by simp [hblank])
  ne_nil := List.cons_ne_nil c []
  plain := by simp [hplain]

/-- Two comparisons that both have to hold, and a name for the case that they do not. -/
def comparisonsOrName : Formula where
  first :=
    ⟨.comparison (.letter 'a' (by decide) (by decide)) .notEqual
        (.letter '0' (by decide) (by decide)),
      [.comparison (.letter 'n' (by decide) (by decide)) .atMost
        (.letter '9' (by decide) (by decide))]⟩
  others := [⟨.name (.letter 'b' (by decide) (by decide)), []⟩]

theorem comparisonsOrName_writtenAs :
    comparisonsOrName.WrittenAs (Text.ofString " a!=0&&n <=\t9 ||b") := by
  have hfirst : Atom.WrittenAs comparisonsOrName.first.first (Text.ofString " a!=0") :=
    ⟨[' ', 'a'], ['0'], ⟨[' '], [], by decide, by decide, rfl⟩,
      ⟨[], [], by decide, by decide, rfl⟩, rfl⟩
  have hsecond : Atom.WrittenAs (.comparison (.letter 'n' (by decide) (by decide)) .atMost
      (.letter '9' (by decide) (by decide))) (Text.ofString "n <=\t9 ") :=
    ⟨['n', ' '], ['\t', '9', ' '], ⟨[], [' '], by decide, by decide, rfl⟩,
      ⟨['\t'], [' '], by decide, by decide, rfl⟩, rfl⟩
  have hthird : Atom.WrittenAs (.name (.letter 'b' (by decide) (by decide))) ['b'] :=
    ⟨[], [], by decide, by decide, rfl⟩
  exact ⟨_, .cons ⟨_, .cons hfirst (.cons hsecond .nil), rfl⟩
    (.cons ⟨_, .cons hthird .nil, rfl⟩ .nil), rfl⟩

end Condition

end CommentSwitch
