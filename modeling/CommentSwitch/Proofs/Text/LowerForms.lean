import CommentSwitch.Text.Blank
import CommentSwitch.Text.Lowercase

/-!
# Lower-case forms

Lower-casing twice changes nothing.  No mapping leads to a character that another mapping
moves on, which is checked once for every two of them; and none leads to blank or to a dot, so
that a text that neither starts nor ends with these keeps to that.

- `Text.CaseShift.clears`: one mapping leads to nothing that another one moves
- `Text.IsLower`: characters that nothing moves
- `Text.lower_eq_self_iff`, `Text.isLower_of_mem_lower`: lower-case forms are their own
- `Text.head?_lower`, `Text.getLast?_lower`: the ends of a lower-case form
-/

namespace CommentSwitch

namespace Text

/-! ## §1 Shifts -/

/-- Whether what a shift has moved is moved no further by another one: it lies before or
behind what that moves, or between. -/
def CaseShift.clears (s t : CaseShift) : Bool :=
  let low := (s.first + s.offset).toNat
  let high := (s.last + s.offset).toNat
  Nat.blt high t.first || Nat.blt t.last low
    || ((s.step == 2 || s.first == s.last) && t.step == 2 && (low - t.first) % 2 == 1)

/-- The shifts, and a mark for the capital letter that has a longer form. -/
def capitals : List CaseShift := ⟨0x130, 0x130, 1, 0⟩ :: lowerShifts

theorem clears_capitals : lowerShifts.all (fun s => capitals.all s.clears) = true := by
  decide +kernel

theorem CaseShift.moves_eq_true_iff {s : CaseShift} {n : Nat} :
    s.moves n = true ↔ s.first ≤ n ∧ n ≤ s.last ∧ (n - s.first) % s.step = 0 := by
  simp [CaseShift.moves, and_assoc]

/-- What a shift has moved stays where it is. -/
theorem CaseShift.moves_image {s t : CaseShift} (hclears : s.clears t = true) {n : Nat}
    (hn : s.moves n = true) : t.moves ((n : Int) + s.offset).toNat = false := by
  obtain ⟨hfirst, hlast, hstep⟩ := moves_eq_true_iff.mp hn
  rw [← Bool.not_eq_true, moves_eq_true_iff]
  intro hmoves
  obtain ⟨hfirst', hlast', hstep'⟩ := hmoves
  simp only [clears, Bool.or_eq_true, Bool.and_eq_true, beq_iff_eq, Nat.blt_eq] at hclears
  rcases hclears with (hbefore | hbehind) | ⟨⟨hsteps, htwo⟩, hodd⟩
  · omega
  · omega
  · rw [htwo] at hstep'
    rcases hsteps with hsteps | hsingle
    · rw [hsteps] at hstep
      omega
    · omega

/-- A character that is neither blank nor a dot. -/
def IsInk (c : Char) : Prop := isBlank c = false ∧ c ≠ '.'

instance (c : Char) : Decidable (IsInk c) :=
  inferInstanceAs (Decidable (isBlank c = false ∧ c ≠ '.'))

/-- Whether what a shift has moved is neither blank nor a dot. -/
def CaseShift.leadsToLetters (s : CaseShift) : Bool :=
  let low := (s.first + s.offset).toNat
  let high := (s.last + s.offset).toNat
  (0x61 ≤ low && high ≤ 0x7A) || (0xA0 < low && high < 0x1680) || (0x1680 < low && high < 0x2000)
    || (0x205F < low && high < 0x3000) || 0x3000 < low

theorem leadsToLetters_lowerShifts : lowerShifts.all CaseShift.leadsToLetters = true := by
  decide +kernel

theorem isInk_of_leadsToLetters {s : CaseShift} (hletters : s.leadsToLetters = true) {c x : Char}
    (hc : s.moves c.toNat = true) (hx : x.toNat = ((c.toNat : Int) + s.offset).toNat) :
    IsInk x := by
  obtain ⟨hfirst, hlast, -⟩ := CaseShift.moves_eq_true_iff.mp hc
  simp only [CaseShift.leadsToLetters, Bool.or_eq_true, Bool.and_eq_true, decide_eq_true_eq]
    at hletters
  refine ⟨?_, ?_⟩
  · rw [← Bool.not_eq_true]
    simp only [isBlank, Bool.or_eq_true, Bool.and_eq_true, decide_eq_true_eq, beq_iff_eq]
    omega
  · intro hdot
    rw [hdot] at hx
    have hcode : '.'.toNat = 0x2E := rfl
    omega

/-! ## §2 Characters -/

/-- A character that no mapping moves. -/
def IsLower (c : Char) : Prop := ∀ s ∈ capitals, s.moves c.toNat = false

instance (c : Char) : Decidable (IsLower c) :=
  inferInstanceAs (Decidable (∀ s ∈ capitals, s.moves c.toNat = false))

theorem shiftOf_of_isLower {c : Char} (hc : IsLower c) : shiftOf lowerShifts c = c := by
  have hnone : lowerShifts.find? (·.moves c.toNat) = none := by
    apply List.find?_eq_none.mpr
    intro s hs
    simp [hc s (List.mem_cons_of_mem _ hs)]
  unfold shiftOf
  rw [hnone]

/-- What a character is moved to; what is no character would become the character zero. -/
theorem shiftOf_cases (c : Char) :
    (shiftOf lowerShifts c = c ∧ ∀ s ∈ lowerShifts, s.moves c.toNat = false) ∨
      shiftOf lowerShifts c = '\x00' ∨
      ∃ s ∈ lowerShifts, s.moves c.toNat = true ∧
        (shiftOf lowerShifts c).toNat = ((c.toNat : Int) + s.offset).toNat := by
  unfold shiftOf
  cases hfind : lowerShifts.find? (·.moves c.toNat) with
  | none =>
    left
    refine ⟨rfl, ?_⟩
    intro s hs
    simpa using List.find?_eq_none.mp hfind s hs
  | some s =>
    right
    have hs : s ∈ lowerShifts := List.mem_of_find?_eq_some hfind
    have hmoves : s.moves c.toNat = true := by simpa using List.find?_some hfind
    dsimp only
    by_cases hvalid : ((c.toNat : Int) + s.offset).toNat.isValidChar
    · rw [Char.ofNat, dif_pos hvalid]
      exact .inr ⟨s, hs, hmoves, rfl⟩
    · rw [Char.ofNat, dif_neg hvalid]
      exact .inl rfl

theorem isLower_shiftOf (c : Char) (hc : c.toNat ≠ 0x130) :
    IsLower (shiftOf lowerShifts c) := by
  rcases shiftOf_cases c with ⟨hsame, hnone⟩ | hzero | ⟨s, hs, hmoves, himage⟩
  · rw [hsame]
    intro t ht
    rcases List.mem_cons.mp ht with rfl | ht
    · rw [← Bool.not_eq_true, CaseShift.moves_eq_true_iff]
      show ¬ (0x130 ≤ c.toNat ∧ c.toNat ≤ 0x130 ∧ _)
      omega
    · exact hnone t ht
  · rw [hzero]
    decide +kernel
  · intro t ht
    rw [himage]
    have hclears := List.all_eq_true.mp clears_capitals s hs
    exact CaseShift.moves_image (List.all_eq_true.mp hclears t ht) hmoves

/-- Of the first 128 characters only the capital letters are moved. -/
theorem toLower_eq_shiftOf {c : Char} (hc : c.toNat < 0x80) :
    c.toLower = shiftOf lowerShifts c := by
  have hothers : lowerShifts.tail.find? (·.moves c.toNat) = none := by
    have hfirst : ∀ s ∈ lowerShifts.tail, 0x80 ≤ s.first := by decide +kernel
    apply List.find?_eq_none.mpr
    intro s hs hmoves
    obtain ⟨hle, -⟩ := CaseShift.moves_eq_true_iff.mp hmoves
    exact absurd (hfirst s hs) (by omega)
  have hsplit : lowerShifts = ⟨0x41, 0x5A, 1, 32⟩ :: lowerShifts.tail := rfl
  unfold shiftOf Char.toLower
  rw [hsplit, List.find?_cons, hothers]
  split
  · next hletter =>
    have hmoves : CaseShift.moves ⟨0x41, 0x5A, 1, 32⟩ c.toNat = true :=
      CaseShift.moves_eq_true_iff.mpr ⟨hletter.1, hletter.2, Nat.mod_one _⟩
    rw [hmoves]
    have hvalid : (c.toNat + 32).isValidChar := by
      left
      omega
    show _ = Char.ofNat (c.toNat + 32)
    unfold Char.ofNat
    rw [dif_pos hvalid]
    apply Char.ext
    apply UInt32.toNat_inj.mp
    show (c.toNat + 32) % 2 ^ 32 = c.toNat + 32
    omega
  · next hletter =>
    have hmoves : CaseShift.moves ⟨0x41, 0x5A, 1, 32⟩ c.toNat = false := by
      rw [← Bool.not_eq_true, CaseShift.moves_eq_true_iff]
      intro hmoves
      exact hletter ⟨hmoves.1, hmoves.2.1⟩
    rw [hmoves]

/-- The first 128 characters, which are treated by themselves, are no exception. -/
theorem lowerChar_eq (c : Char) (hc : c.toNat ≠ 0x130) :
    lowerChar c = [shiftOf lowerShifts c] := by
  unfold lowerChar
  rw [if_neg hc]
  split
  · next hascii => rw [toLower_eq_shiftOf hascii]
  · rfl

theorem lowerChar_of_isLower {c : Char} (hc : IsLower c) : lowerChar c = [c] := by
  have hne : c.toNat ≠ 0x130 := by
    intro heq
    have hmark := hc ⟨0x130, 0x130, 1, 0⟩ List.mem_cons_self
    rw [heq] at hmark
    cases hmark
  rw [lowerChar_eq c hne, shiftOf_of_isLower hc]

theorem lowerChar_eq_of_long {c : Char} (hc : c.toNat = 0x130) :
    lowerChar c = ['i', Char.ofNat 0x307] := by
  unfold lowerChar
  rw [if_neg (by omega), if_pos hc]

/-- A character that can stand in a lower-case form for another one: nothing moves it, and it is
neither blank nor a dot unless the other is. -/
def IsFormOf (c x : Char) : Prop := IsLower x ∧ (x = c ∨ IsInk x)

theorem isFormOf_of_mem_lowerChar {c x : Char} (hx : x ∈ lowerChar c) : IsFormOf c x := by
  by_cases hc : c.toNat = 0x130
  · rw [lowerChar_eq_of_long hc] at hx
    have hfirst : IsLower 'i' ∧ IsInk 'i' := by decide +kernel
    have hsecond : IsLower (Char.ofNat 0x307) ∧ IsInk (Char.ofNat 0x307) := by decide +kernel
    obtain ⟨hlower, hink⟩ : IsLower x ∧ IsInk x := by
      rcases List.mem_cons.mp hx with rfl | hx
      · exact hfirst
      · rw [List.mem_singleton.mp hx]
        exact hsecond
    exact ⟨hlower, .inr hink⟩
  · rw [lowerChar_eq c hc, List.mem_singleton] at hx
    rw [hx]
    refine ⟨isLower_shiftOf c hc, ?_⟩
    rcases shiftOf_cases c with ⟨hsame, -⟩ | hzero | ⟨s, hs, hmoves, himage⟩
    · exact .inl hsame
    · rw [hzero]
      exact .inr (by decide)
    · exact .inr (isInk_of_leadsToLetters (List.all_eq_true.mp leadsToLetters_lowerShifts s hs)
        hmoves himage)

theorem lowerChar_ne_nil (c : Char) : lowerChar c ≠ [] := by
  by_cases hc : c.toNat = 0x130
  · simp [lowerChar_eq_of_long hc]
  · simp [lowerChar_eq c hc]

/-! ## §3 Texts -/

/-- Every character is replaced by one or more that can stand for it. -/
theorem exists_lowerAfter_cons (before : Text) (c : Char) (rest : Text) :
    ∃ form : Text, form ≠ [] ∧ (∀ x ∈ form, IsFormOf c x) ∧
      lowerAfter before (c :: rest) = form ++ lowerAfter (c :: before) rest := by
  -- The capital sigma has two forms, and neither of them is moved or blank.
  have hfinal : IsLower 'ς' ∧ IsInk 'ς' := by decide +kernel
  have hsigma : IsLower 'σ' ∧ IsInk 'σ' := by decide +kernel
  refine ⟨_, ?_, ?_, rfl⟩
  · split
    · split <;> simp
    · exact lowerChar_ne_nil c
  · split
    · intro x hx
      obtain ⟨hlower, hink⟩ : IsLower x ∧ IsInk x := by
        split at hx
        · rw [List.mem_singleton.mp hx]
          exact hfinal
        · rw [List.mem_singleton.mp hx]
          exact hsigma
      exact ⟨hlower, .inr hink⟩
    · intro x hx
      exact isFormOf_of_mem_lowerChar hx

theorem isLower_of_mem_lowerAfter {before t : Text} {x : Char} (hx : x ∈ lowerAfter before t) :
    IsLower x := by
  induction t generalizing before with
  | nil => cases hx
  | cons c rest ih =>
    obtain ⟨form, -, hform, heq⟩ := exists_lowerAfter_cons before c rest
    rw [heq] at hx
    rcases List.mem_append.mp hx with hx | hx
    · exact (hform x hx).1
    · exact ih hx

theorem lowerAfter_of_isLower {before t : Text} (ht : ∀ c ∈ t, IsLower c) :
    lowerAfter before t = t := by
  induction t generalizing before with
  | nil => rfl
  | cons c rest ih =>
    obtain ⟨hc, hrest⟩ := List.forall_mem_cons.mp ht
    have hsigma : c ≠ 'Σ' := by
      intro heq
      rw [heq] at hc
      exact absurd hc (by decide +kernel)
    unfold lowerAfter
    rw [if_neg hsigma, lowerChar_of_isLower hc, ih hrest]
    rfl

/-- Lower-case forms are made of characters that nothing moves. -/
theorem isLower_of_mem_lower {t : Text} {x : Char} (hx : x ∈ lower t) : IsLower x :=
  isLower_of_mem_lowerAfter hx

/-- A text is its own lower-case form if nothing in it is moved, and only then. -/
theorem lower_eq_self_iff {t : Text} : lower t = t ↔ ∀ c ∈ t, IsLower c := by
  constructor
  · intro h c hc
    rw [← h] at hc
    exact isLower_of_mem_lower hc
  · intro h
    exact lowerAfter_of_isLower h

/-- A lower-case form starts with what can stand for the first character. -/
theorem head?_lower (c : Char) (rest : Text) :
    ∃ x, (lower (c :: rest)).head? = some x ∧ IsFormOf c x := by
  obtain ⟨form, hne, hform, heq⟩ := exists_lowerAfter_cons [] c rest
  obtain ⟨x, form, rfl⟩ := List.exists_cons_of_ne_nil hne
  refine ⟨x, ?_, hform x List.mem_cons_self⟩
  unfold lower
  rw [heq]
  rfl

theorem getLast?_lowerAfter {t : Text} {c : Char} (hc : t.getLast? = some c) (before : Text) :
    ∃ x, (lowerAfter before t).getLast? = some x ∧ IsFormOf c x := by
  induction t generalizing before with
  | nil => cases hc
  | cons a rest ih =>
    obtain ⟨form, hne, hform, heq⟩ := exists_lowerAfter_cons before a rest
    rw [heq]
    cases rest with
    | nil =>
      obtain rfl : a = c := by simpa using hc
      refine ⟨form.getLast hne, ?_, hform _ (List.getLast_mem hne)⟩
      show (form ++ []).getLast? = _
      rw [List.append_nil, List.getLast?_eq_some_getLast hne]
    | cons b rest =>
      rw [List.getLast?_cons_cons] at hc
      obtain ⟨x, hlast, hx⟩ := ih hc (a :: before)
      refine ⟨x, ?_, hx⟩
      rw [List.getLast?_append, hlast]
      rfl

/-- A lower-case form ends with what can stand for the last character. -/
theorem getLast?_lower {t : Text} {c : Char} (hc : t.getLast? = some c) :
    ∃ x, (lower t).getLast? = some x ∧ IsFormOf c x :=
  getLast?_lowerAfter hc []

end Text

end CommentSwitch
