import CommentSwitch.CommandLine.Invocation
import CommentSwitch.Proofs.Settings.Tables
import CommentSwitch.Proofs.Text.Cutting
import Mathlib.Data.List.Forall2

/-!
# Layers of settings

Settings laid over others are settings again, and it makes no difference in which order the layers
are put together.  What a command line changes is one more layer, made of the assignments that are
well formed; the others leave no trace.

- `Settings.onTopOf_assoc`, `Settings.standard_onTopOf`, `Settings.onTopOf_standard`: layers form a
  monoid
- `CommandLine.forall₂_assigns`: well-formed assignments count one by one
- `CommandLine.Overrides.apply_eq_onTopOf`: what a command line changes is a layer on top
- `CommandLine.onTopOf_monoid_and_overrides`: the laws of layers, those of the command line too
-/

namespace CommentSwitch

/-! ## §1 Settings -/

namespace Settings

variable (a b c s : Settings)

theorem onTopOf_assoc : (a.onTopOf b).onTopOf c = a.onTopOf (b.onTopOf c) := by
  simp only [onTopOf, Option.or_assoc, Dictionary.extend_assoc, RemapTable.extend_assoc]

theorem standard_onTopOf : standard.onTopOf s = s := by
  simp only [onTopOf, standard, Option.none_or, Dictionary.extend_empty, RemapTable.extend_empty]

theorem onTopOf_standard : s.onTopOf standard = s := by
  simp only [onTopOf, standard, Option.or_none, Dictionary.empty_extend, RemapTable.empty_extend]

end Settings

/-! ## §2 Assignments -/

namespace CommandLine

/-- An assignment that is not well formed: it has no equals sign, or only blank before the
first one. -/
def IsMalformed (t : Text) : Prop :=
  '=' ∉ t ∨ Text.isBlankLine (t.takeWhile (· ≠ '=')) = true

instance (t : Text) : Decidable (IsMalformed t) :=
  inferInstanceAs (Decidable (_ ∨ _))

/-- A text assigns a value to a name: they stand around its first equals sign, trimmed, and the
name is not blank. -/
def Assigns (t : Text) (e : Text × Text) : Prop :=
  ∃ left right, t = left ++ '=' :: right ∧ '=' ∉ left ∧
    Text.isBlankLine left = false ∧ e = (Text.trim left, Text.trim right)

theorem assignment?_append {name : Text} (h : '=' ∉ name) (value : Text) :
    assignment? (name ++ '=' :: value) =
      if Text.isBlankLine name then none else some (Text.trim name, Text.trim value) := by
  simp only [assignment?, Text.cutOnce?_append h, List.isEmpty_iff, Text.isBlankLine_iff]

theorem assignment?_of_not_mem {t : Text} (h : '=' ∉ t) : assignment? t = none := by
  rw [assignment?, Text.cutOnce?_eq_none h]

theorem isMalformed_append_iff {name : Text} (h : '=' ∉ name) (value : Text) :
    IsMalformed (name ++ '=' :: value) ↔ Text.isBlankLine name = true := by
  have hbefore : (name ++ '=' :: value).takeWhile (· ≠ '=') = name := by
    rw [List.takeWhile_append_of_pos, List.takeWhile_cons_of_neg (by simp), List.append_nil]
    intro c hc
    simpa using ne_of_mem_of_not_mem hc h
  rw [IsMalformed, hbefore]
  simp

theorem assignment?_eq_some_iff {t : Text} {e : Text × Text} :
    assignment? t = some e ↔ Assigns t e := by
  constructor
  · intro hassign
    by_cases hmem : '=' ∈ t
    · obtain ⟨name, value, rfl, hname⟩ := List.eq_append_cons_of_mem hmem
      rw [assignment?_append hname] at hassign
      split at hassign
      · cases hassign
      · next hword =>
        cases hassign
        exact ⟨name, value, rfl, hname, by simpa using hword, rfl⟩
    · rw [assignment?_of_not_mem hmem] at hassign
      cases hassign
  · rintro ⟨name, value, rfl, hname, hword, rfl⟩
    rw [assignment?_append hname, if_neg]
    simpa using hword

theorem assignment?_eq_none_iff {t : Text} : assignment? t = none ↔ IsMalformed t := by
  by_cases hmem : '=' ∈ t
  · obtain ⟨name, value, rfl, hname⟩ := List.eq_append_cons_of_mem hmem
    rw [isMalformed_append_iff hname, assignment?_append hname]
    simp
  · exact iff_of_true (assignment?_of_not_mem hmem) (.inl hmem)

/-- Every well-formed assignment of a list gives one name and value, in order, whatever stands
beside it. -/
theorem forall₂_assigns (texts : List Text) :
    List.Forall₂ Assigns (texts.filter (¬ IsMalformed ·)) (texts.filterMap assignment?) := by
  induction texts with
  | nil => exact .nil
  | cons t rest ih =>
    cases hassign : assignment? t with
    | none =>
      have hbad : IsMalformed t := assignment?_eq_none_iff.mp hassign
      rw [List.filter_cons_of_neg (by simpa using hbad), List.filterMap_cons_none hassign]
      exact ih
    | some e =>
      have hgood : ¬ IsMalformed t := by
        rw [← assignment?_eq_none_iff, hassign]
        exact Option.some_ne_none e
      rw [List.filter_cons_of_pos (by simpa using hgood), List.filterMap_cons_some hassign]
      exact .cons (assignment?_eq_some_iff.mp hassign) ih

/-! ## §3 The command line as a layer -/

namespace Overrides

/-- The changes that the values of the options ask for. -/
def ofTexts (vars remap : List Text) (removeComments : Bool) : Overrides where
  vars := vars.flatMap assignments
  remap := remap.filterMap assignment?
  removeComments := removeComments

theorem vars_ofTexts (vars remap : List Text) (removeComments : Bool) :
    (ofTexts vars remap removeComments).vars =
      (vars.flatMap (Text.cutAt ',')).filterMap assignment? := by
  rw [List.filterMap_flatMap]
  rfl

/-- The settings in which nothing but the changes is set. -/
def layer (o : Overrides) : Settings where
  removeComments := if o.removeComments then some true else none
  vars := .ofList o.vars
  keywords := .empty
  remap := .ofList o.remap

theorem apply_eq_onTopOf (o : Overrides) (s : Settings) : o.apply s = o.layer.onTopOf s := by
  have hremove : (if o.removeComments then some true else s.removeComments) =
      (if o.removeComments then some true else none).or s.removeComments := by
    cases o.removeComments <;> rfl
  -- A layer that is new is put in entry by entry, as the options are.
  simp only [Settings.onTopOf, layer, Dictionary.extend_ofList, Dictionary.extend_empty,
    RemapTable.extend_ofList, ← hremove]
  rfl

end Overrides

theorem Invocation.overrides_ofGiven (before behind : Given) (command : Option Command) :
    (ofGiven before behind command).overrides =
      .ofTexts (values before behind .var) (values before behind .remap)
        !(values before behind .removeComments).isEmpty := rfl

/-- **Layers of settings form a monoid, and a command line is one more layer.** -/
theorem onTopOf_monoid_and_overrides :
    (∀ a b c : Settings, a.onTopOf (b.onTopOf c) = (a.onTopOf b).onTopOf c) ∧
    (∀ s : Settings, Settings.standard.onTopOf s = s ∧ s.onTopOf .standard = s) ∧
    ∀ (s : Settings) (vars remap : List Text) (removeComments : Bool),
      (Overrides.ofTexts vars remap removeComments).apply s =
        (Overrides.ofTexts vars remap removeComments).layer.onTopOf s ∧
      List.Forall₂ Assigns ((vars.flatMap (Text.cutAt ',')).filter (¬ IsMalformed ·))
        (Overrides.ofTexts vars remap removeComments).vars ∧
      List.Forall₂ Assigns (remap.filter (¬ IsMalformed ·))
        (Overrides.ofTexts vars remap removeComments).remap := by
  refine ⟨fun a b c => (Settings.onTopOf_assoc a b c).symm,
    fun s => ⟨s.standard_onTopOf, s.onTopOf_standard⟩, ?_⟩
  intro s vars remap removeComments
  refine ⟨Overrides.apply_eq_onTopOf _ s, ?_, forall₂_assigns remap⟩
  rw [Overrides.vars_ofTexts]
  exact forall₂_assigns _

end CommandLine

end CommentSwitch
