import CommentSwitch.Proofs.Text.Trimming

/-!
# Laws of cutting

A text that is joined from pieces with a doubled character falls into these pieces again
when it is cut there, and trimming it trims its outer pieces.

- `Text.cutAtTwin_intercalate`: cutting undoes joining
- `Text.intercalate_cutAtTwin`: joining undoes cutting
- `Text.cutOnce?_append`, `Text.cutOnce?_eq_none`: cutting at the first occurrence of a character
- `Text.trimStart_intercalate`, `Text.trimEnd_intercalate_cons`: what trimming does to a
  joined text
-/

namespace CommentSwitch

namespace Text

/-! ## §1 Cutting at a doubled character -/

section Cutting

variable {c : Char} {piece : Text} {pieces : List Text}

theorem cutAtTwin_cons_of_ne {a : Char} (h : a ≠ c) (rest : Text) :
    cutAtTwin c (a :: rest) = consFirst a (cutAtTwin c rest) := by
  cases rest with
  | nil => rfl
  | cons b rest => rw [cutAtTwin, if_neg fun hab => h hab.1]

theorem cutAtTwin_eq_singleton (h : c ∉ piece) : cutAtTwin c piece = [piece] := by
  induction piece with
  | nil => rfl
  | cons a piece ih =>
    rw [List.mem_cons, not_or] at h
    rw [cutAtTwin_cons_of_ne (Ne.symm h.1), ih h.2]
    rfl

theorem cutAtTwin_append (h : c ∉ piece) (rest : Text) :
    cutAtTwin c (piece ++ c :: c :: rest) = piece :: cutAtTwin c rest := by
  induction piece with
  | nil => rw [List.nil_append, cutAtTwin, if_pos ⟨rfl, rfl⟩]
  | cons a piece ih =>
    rw [List.mem_cons, not_or] at h
    rw [List.cons_append, cutAtTwin_cons_of_ne (Ne.symm h.1), ih h.2]
    rfl

/-- Cutting undoes joining. -/
theorem cutAtTwin_intercalate (hne : pieces ≠ []) (h : ∀ piece ∈ pieces, c ∉ piece) :
    cutAtTwin c ([c, c].intercalate pieces) = pieces := by
  induction pieces with
  | nil => exact absurd rfl hne
  | cons piece others ih =>
    have hpiece := h piece List.mem_cons_self
    cases others with
    | nil => simpa using cutAtTwin_eq_singleton hpiece
    | cons next others =>
      have hrest := ih (List.cons_ne_nil _ _) fun p hp => h p (List.mem_cons_of_mem _ hp)
      rw [List.intercalate_cons_cons, List.append_assoc]
      exact (cutAtTwin_append hpiece _).trans (congrArg _ hrest)

theorem intercalate_consFirst {sep : Text} (c : Char) (hne : pieces ≠ []) :
    sep.intercalate (consFirst c pieces) = c :: sep.intercalate pieces := by
  obtain ⟨piece, others, rfl⟩ := List.exists_cons_of_ne_nil hne
  cases others with
  | nil => simp [consFirst]
  | cons next others =>
    rw [consFirst, List.intercalate_cons_cons, List.intercalate_cons_cons]
    rfl

theorem cutAtTwin_ne_nil (c : Char) (t : Text) : cutAtTwin c t ≠ [] := by
  fun_cases cutAtTwin c t with
  | case1 => simp
  | case2 => simp
  | case3 => simp
  | case4 a b rest =>
    cases cutAtTwin c (b :: rest) <;> simp [consFirst]

/-- Joining undoes cutting. -/
theorem intercalate_cutAtTwin (c : Char) (t : Text) :
    [c, c].intercalate (cutAtTwin c t) = t := by
  fun_induction cutAtTwin c t with
  | case1 => rfl
  | case2 a => simp
  | case3 a b rest h ih =>
    obtain ⟨rfl, rfl⟩ := h
    obtain ⟨piece, pieces, hcut⟩ := List.exists_cons_of_ne_nil (cutAtTwin_ne_nil b rest)
    rw [hcut] at ih
    rw [hcut, List.intercalate_cons_cons, ih]
    rfl
  | case4 a b rest h ih =>
    rw [intercalate_consFirst a (cutAtTwin_ne_nil c _), ih]

theorem not_mem_intercalate {sep : Text} (hsep : c ∉ sep) (h : ∀ piece ∈ pieces, c ∉ piece) :
    c ∉ sep.intercalate pieces := by
  induction pieces with
  | nil => simp
  | cons piece others ih =>
    have hpiece := h piece List.mem_cons_self
    cases others with
    | nil => simpa using hpiece
    | cons next others =>
      have hrest := ih fun p hp => h p (List.mem_cons_of_mem _ hp)
      rw [List.intercalate_cons_cons, List.mem_append, List.mem_append, not_or, not_or]
      exact ⟨⟨hpiece, hsep⟩, hrest⟩

/-- A piece of a joined text stands somewhere in it. -/
theorem infix_intercalate {sep : Text} (h : piece ∈ pieces) :
    piece <:+: sep.intercalate pieces := by
  induction pieces with
  | nil => cases h
  | cons first others ih =>
    cases others with
    | nil =>
      rw [List.mem_singleton.mp h]
      simp
    | cons next others =>
      rw [List.intercalate_cons_cons]
      rcases List.mem_cons.mp h with rfl | h
      · exact ((List.prefix_append _ _).trans (List.prefix_append _ _)).isInfix
      · exact (ih h).trans (List.suffix_append _ _).isInfix

/-- A piece of a joined text stands between separators, or at an end of it. -/
theorem exists_around_of_mem {d : Char} (h : piece ∈ pieces) :
    ∃ before after, [d, d].intercalate pieces = before ++ (piece ++ after) ∧
      (before = [] ∨ ∃ left, before = left ++ [d]) ∧
      (after = [] ∨ ∃ right, after = d :: right) := by
  induction pieces with
  | nil => cases h
  | cons first others ih =>
    cases others with
    | nil =>
      rw [List.mem_singleton.mp h]
      exact ⟨[], [], by simp, .inl rfl, .inl rfl⟩
    | cons next others =>
      rw [List.intercalate_cons_cons]
      rcases List.mem_cons.mp h with rfl | h
      · exact ⟨[], [d, d] ++ [d, d].intercalate (next :: others), by simp, .inl rfl, .inr ⟨_, rfl⟩⟩
      · obtain ⟨before, after, heq, hbefore, hafter⟩ := ih h
        refine ⟨first ++ [d, d] ++ before, after, by simp [heq], .inr ?_, hafter⟩
        rcases hbefore with rfl | ⟨left, rfl⟩
        · exact ⟨first ++ [d], by simp⟩
        · exact ⟨first ++ [d, d] ++ left, by simp⟩

theorem exists_around_of_mem_cutAtTwin {d : Char} {t : Text} (h : piece ∈ cutAtTwin d t) :
    ∃ before after, t = before ++ (piece ++ after) ∧
      (before = [] ∨ ∃ left, before = left ++ [d]) ∧
      (after = [] ∨ ∃ right, after = d :: right) := by
  obtain ⟨before, after, heq, hends⟩ := exists_around_of_mem (d := d) h
  rw [intercalate_cutAtTwin] at heq
  exact ⟨before, after, heq, hends⟩

/-- A piece is cut no further. -/
theorem cutAtTwin_of_mem {t : Text} (h : piece ∈ cutAtTwin c t) : cutAtTwin c piece = [piece] := by
  fun_induction cutAtTwin c t generalizing piece with
  | case1 =>
    rw [List.mem_singleton.mp h]
    rfl
  | case2 a =>
    rw [List.mem_singleton.mp h]
    rfl
  | case3 a b rest hab ih =>
    rcases List.mem_cons.mp h with rfl | h
    · rfl
    · exact ih h
  | case4 a b rest hab ih =>
    obtain ⟨first, others, hcut⟩ := List.exists_cons_of_ne_nil (cutAtTwin_ne_nil c (b :: rest))
    rw [hcut] at h ih
    rcases List.mem_cons.mp h with rfl | h
    · have hfirst : cutAtTwin c first = [first] := ih List.mem_cons_self
      by_cases ha : a = c
      · -- What follows the character does not start with another one.
        have hb : b ≠ c := fun hb => hab ⟨ha, hb⟩
        rw [cutAtTwin_cons_of_ne hb] at hcut
        obtain ⟨first', rfl⟩ : ∃ first', first = b :: first' := by
          cases hrest : cutAtTwin c rest <;> rw [hrest] at hcut <;> cases hcut <;> exact ⟨_, rfl⟩
        rw [cutAtTwin, if_neg hab, hfirst]
        rfl
      · rw [cutAtTwin_cons_of_ne ha, hfirst]
        rfl
    · exact ih (List.mem_cons_of_mem _ h)

/-- At any other character a text can be taken apart before it is cut. -/
theorem cutAtTwin_append_cons {x : Char} (hx : x ≠ c) (left right : Text) :
    ∃ pieces last first others, cutAtTwin c left = pieces ++ [last] ∧
      cutAtTwin c right = first :: others ∧
      cutAtTwin c (left ++ x :: right) = pieces ++ (last ++ x :: first) :: others := by
  obtain ⟨first, others, hright⟩ := List.exists_cons_of_ne_nil (cutAtTwin_ne_nil c right)
  have hfrom : cutAtTwin c (x :: right) = (x :: first) :: others := by
    rw [cutAtTwin_cons_of_ne hx, hright]
    rfl
  fun_induction cutAtTwin c left with
  | case1 => exact ⟨[], [], first, others, rfl, hright, hfrom⟩
  | case2 a =>
    have hnot : ¬ (a = c ∧ x = c) := fun h => hx h.2
    refine ⟨[], [a], first, others, rfl, hright, ?_⟩
    rw [List.singleton_append, cutAtTwin, if_neg hnot, hfrom]
    rfl
  | case3 a b rest hab ih =>
    obtain ⟨pieces, last, first', others', hleft, hright', hall⟩ := ih
    refine ⟨[] :: pieces, last, first', others', by rw [hleft]; rfl, hright', ?_⟩
    rw [List.cons_append, List.cons_append, cutAtTwin, if_pos hab, hall]
    rfl
  | case4 a b rest hab ih =>
    obtain ⟨pieces, last, first', others', hleft, hright', hall⟩ := ih
    have hstep : cutAtTwin c (a :: b :: rest ++ x :: right) =
        consFirst a (cutAtTwin c (b :: rest ++ x :: right)) := by
      rw [List.cons_append, List.cons_append, cutAtTwin, if_neg hab]
    rw [hstep, hall, hleft]
    -- The character goes to the first piece, which may be the one that is taken apart.
    cases pieces with
    | nil => exact ⟨[], a :: last, first', others', rfl, hright', rfl⟩
    | cons piece pieces =>
      exact ⟨(a :: piece) :: pieces, last, first', others', rfl, hright', rfl⟩

end Cutting

/-! ## §2 Cutting once -/

section CuttingOnce

variable {c : Char} {left t : Text}

theorem cutOnce?_append (h : c ∉ left) (right : Text) :
    cutOnce? c (left ++ c :: right) = some (left, right) := by
  induction left with
  | nil => rw [List.nil_append, cutOnce?, if_pos rfl]
  | cons a left ih =>
    rw [List.mem_cons, not_or] at h
    rw [List.cons_append, cutOnce?, if_neg (Ne.symm h.1), ih h.2]
    rfl

theorem cutOnce?_eq_none (h : c ∉ t) : cutOnce? c t = none := by
  induction t with
  | nil => rfl
  | cons a t ih =>
    rw [List.mem_cons, not_or] at h
    rw [cutOnce?, if_neg (Ne.symm h.1), ih h.2]
    rfl

end CuttingOnce

/-! ## §3 Trimming a joined text -/

section Trimming

variable {t u : Text}

theorem trim_trimStart (t : Text) : trim (trimStart t) = trim t := by
  conv_rhs => rw [← leadingBlank_append_trimStart t]
  exact (trim_append_of_blank fun _ hc => isBlank_of_mem_leadingBlank hc).symm

theorem trim_trim (t : Text) : trim (trim t) = trim t :=
  (trim_trimEnd (trimStart t)).trans (trim_trimStart t)

theorem trimStart_append (h : isBlankLine t = false) :
    trimStart (t ++ u) = trimStart t ++ u := by
  rw [trimStart, List.dropWhile_append]
  split
  · next hnil =>
    rw [List.isEmpty_iff, dropWhile_eq_nil_iff_all, ← List.all_eq_true] at hnil
    rw [isBlankLine, hnil] at h
    cases h
  · rfl

theorem trimEnd_append (h : isBlankLine u = false) : trimEnd (t ++ u) = t ++ trimEnd u := by
  rw [trimEnd, List.reverse_append, List.dropWhile_append]
  split
  · next hnil =>
    rw [List.isEmpty_iff, dropWhile_eq_nil_iff_all] at hnil
    have hall : u.all isBlank = true :=
      List.all_eq_true.mpr fun c hc => hnil c (List.mem_reverse.mpr hc)
    rw [isBlankLine, hall] at h
    cases h
  · rw [List.reverse_append, List.reverse_reverse, trimEnd]

variable {sep piece next : Text} {pieces : List Text}

theorem isBlankLine_intercalate_cons (h : isBlankLine piece = false) :
    isBlankLine (sep.intercalate (piece :: pieces)) = false := by
  cases pieces with
  | nil => simpa using h
  | cons next pieces =>
    rw [List.intercalate_cons_cons, isBlankLine, List.all_append, List.all_append,
      ← isBlankLine, h]
    rfl

/-- At the start, a joined text is trimmed like its first piece. -/
theorem trimStart_intercalate (h : isBlankLine piece = false) :
    trimStart (sep.intercalate (piece :: pieces)) =
      sep.intercalate (trimStart piece :: pieces) := by
  cases pieces with
  | nil => simp
  | cons next pieces =>
    rw [List.intercalate_cons_cons, List.intercalate_cons_cons, List.append_assoc,
      List.append_assoc, trimStart_append h]

/-- At the end, a joined text is trimmed like what follows its first piece. -/
theorem trimEnd_intercalate_cons (h : isBlankLine next = false) :
    trimEnd (sep.intercalate (piece :: next :: pieces)) =
      piece ++ sep ++ trimEnd (sep.intercalate (next :: pieces)) := by
  rw [List.intercalate_cons_cons, trimEnd_append (isBlankLine_intercalate_cons h)]

end Trimming

end Text

end CommentSwitch
