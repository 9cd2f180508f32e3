import CommentSwitch.Text.Basic

/-!
# Offsets in bytes

A character takes up to four bytes, so a text can not be cut at every byte.  It can be cut where
some of its characters end: this is what `Text.InRange` says of an offset, and the two ways to come
by such an offset are to count the bytes of a part of the text, or to look up a character.

- `Text.byteLength`: the number of bytes of a text
- `Text.inRange_iff`: the offsets at which a text can be cut
- `Text.splitAtByte_eq_ok_iff`: cutting a text at an offset
- `Text.charOffset?_eq`: the offset of a character
-/

namespace CommentSwitch

namespace Text

/-! ## §1 Lengths in bytes -/

/-- The number of bytes of a text. -/
def byteLength (t : Text) : Nat := (asString t).utf8ByteSize

@[simp] theorem byteLength_nil : byteLength [] = 0 := rfl

theorem byteLength_append (s t : Text) :
    byteLength (s ++ t) = byteLength s + byteLength t := by
  unfold byteLength asString
  rw [String.ofList_append, String.utf8ByteSize_append]

@[simp] theorem byteLength_cons (c : Char) (t : Text) :
    byteLength (c :: t) = c.utf8Size + byteLength t := by
  unfold byteLength asString
  rw [String.ofList_cons, String.utf8ByteSize_append, String.utf8ByteSize_singleton]

theorem byteLength_eq_zero_iff {t : Text} : byteLength t = 0 ↔ t = [] := by
  unfold byteLength asString
  rw [String.utf8ByteSize_eq_zero_iff, String.ofList_eq_empty_iff]

theorem eq_of_suffix_of_byteLength_le {s t : Text} (h : s <:+ t)
    (hle : byteLength t ≤ byteLength s) : s = t := by
  obtain ⟨before, rfl⟩ := h
  rw [byteLength_append] at hle
  have hbefore : byteLength before = 0 := by omega
  rw [byteLength_eq_zero_iff.mp hbefore, List.nil_append]

/-- Of two ends of a text the one with fewer bytes ends the other one. -/
theorem suffix_of_byteLength_le {s t u : Text} (hs : s <:+ u) (ht : t <:+ u)
    (hle : byteLength s ≤ byteLength t) : s <:+ t := by
  rcases List.suffix_or_suffix_of_suffix hs ht with h | h
  · exact h
  · obtain rfl : t = s := eq_of_suffix_of_byteLength_le h hle
    exact List.suffix_refl t

/-! ## §2 Boundaries -/

/-- An offset at which a text can be cut. -/
structure InRange (t : Text) (n : Nat) : Prop where
  le : n ≤ byteLength t
  /-- A character starts there, or the text ends. -/
  boundary : String.Pos.Raw.IsValid (asString t) ⟨n⟩

theorem inRange_append (before after : Text) :
    InRange (before ++ after) (byteLength before) where
  le := by
    rw [byteLength_append]
    exact Nat.le_add_right _ _
  boundary := by
    apply String.Pos.Raw.isValid_iff_exists_append.mpr
    exact ⟨asString before, asString after, String.ofList_append, rfl⟩

/-- A text can be cut where some of its characters end. -/
theorem inRange_iff {t : Text} {n : Nat} :
    InRange t n ↔ ∃ before after, t = before ++ after ∧ byteLength before = n := by
  constructor
  · intro h
    obtain ⟨before, after, heq, hn⟩ := String.Pos.Raw.isValid_iff_exists_append.mp h.boundary
    refine ⟨ofString before, ofString after, ?_, ?_⟩
    · rw [← ofString_asString t, heq]
      exact String.toList_append
    · rw [byteLength, asString_ofString]
      exact (congrArg String.Pos.Raw.byteIdx hn).symm
  · rintro ⟨before, after, rfl, rfl⟩
    exact inRange_append before after

/-! ## §3 Cutting at an offset -/

/-- What makes an offset unusable. -/
inductive OffsetFault
  /-- The text can not be cut there. -/
  | outOfRange (t : Text) (n : Nat)
  /-- The offset would be below zero. -/
  | negative
  deriving DecidableEq, Repr

/-- The characters in the first `n` bytes of a text, and the others, if that does not cut a
character in two. -/
def splitAtByte? : Text → Nat → Option (Text × Text)
  | t, 0 => some ([], t)
  | [], _ + 1 => none
  | c :: t, n + 1 =>
    -- A character is taken as a whole, or not at all.
    if c.utf8Size ≤ n + 1 then
      (splitAtByte? t (n + 1 - c.utf8Size)).map fun (before, after) => (c :: before, after)
    else none

/-- Cuts a text at an offset. -/
def splitAtByte (t : Text) (n : Nat) : Except OffsetFault (Text × Text) :=
  match splitAtByte? t n with
  | some halves => .ok halves
  | none => .error (.outOfRange t n)

/-- The part of a text in front of an offset. -/
def sliceTo (t : Text) (n : Nat) : Except OffsetFault Text := (splitAtByte t n).map Prod.fst

/-- The part of a text behind an offset. -/
def sliceFrom (t : Text) (n : Nat) : Except OffsetFault Text := (splitAtByte t n).map Prod.snd

theorem splitAtByte?_append (before after : Text) :
    splitAtByte? (before ++ after) (byteLength before) = some (before, after) := by
  induction before with
  | nil => simp [splitAtByte?]
  | cons c before ih =>
    -- No character is empty, so there are bytes left to count.
    have hpos := c.utf8Size_pos
    obtain ⟨n, hn⟩ : ∃ n, c.utf8Size + byteLength before = n + 1 :=
      Nat.exists_eq_succ_of_ne_zero (by omega)
    have hrest : n + 1 - c.utf8Size = byteLength before := by omega
    rw [byteLength_cons, hn, List.cons_append, splitAtByte?, if_pos (by omega), hrest, ih]
    rfl

theorem eq_append_of_splitAtByte? {t before after : Text} {n : Nat}
    (h : splitAtByte? t n = some (before, after)) :
    t = before ++ after ∧ byteLength before = n := by
  fun_induction splitAtByte? t n generalizing before after with
  | case1 t =>
    cases h
    exact ⟨rfl, rfl⟩
  | case2 => cases h
  | case3 c t n hle ih =>
    -- The first character goes to the part in front, and its bytes with it.
    obtain ⟨⟨before', after'⟩, hhalves, heq⟩ := Option.map_eq_some_iff.mp h
    obtain ⟨rfl, hlength⟩ := ih hhalves
    cases heq
    refine ⟨rfl, ?_⟩
    rw [byteLength_cons, hlength]
    omega
  | case4 => cases h

/-- Cutting gives the two parts of the text that the offset separates. -/
theorem splitAtByte_eq_ok_iff {t before after : Text} {n : Nat} :
    splitAtByte t n = .ok (before, after) ↔ t = before ++ after ∧ byteLength before = n := by
  rw [splitAtByte]
  constructor
  · intro h
    split at h
    · next hhalves =>
      cases h
      exact eq_append_of_splitAtByte? hhalves
    · cases h
  · rintro ⟨rfl, rfl⟩
    rw [splitAtByte?_append]

/-- Cutting fails at no other offsets than those that are out of range. -/
theorem exists_splitAtByte_iff {t : Text} {n : Nat} :
    (∃ halves, splitAtByte t n = .ok halves) ↔ InRange t n := by
  simp only [Prod.exists, splitAtByte_eq_ok_iff, inRange_iff]

theorem sliceTo_append (before after : Text) :
    sliceTo (before ++ after) (byteLength before) = .ok before := by
  rw [sliceTo, splitAtByte_eq_ok_iff.mpr ⟨rfl, rfl⟩]
  rfl

theorem sliceFrom_append (before after : Text) :
    sliceFrom (before ++ after) (byteLength before) = .ok after := by
  rw [sliceFrom, splitAtByte_eq_ok_iff.mpr ⟨rfl, rfl⟩]
  rfl

/-! ## §4 Differences of lengths -/

/-- The difference of two numbers of bytes, which must not be below zero. -/
def byteDifference (m n : Nat) : Except OffsetFault Nat :=
  if n ≤ m then .ok (m - n) else .error .negative

theorem byteDifference_add (m n : Nat) : byteDifference (m + n) n = .ok m := by
  rw [byteDifference, if_pos (Nat.le_add_left n m), Nat.add_sub_cancel]

/-! ## §5 Characters -/

/-- The offset at which the character with number `n` starts, counted from zero. -/
def charOffset? : Text → Nat → Option Nat
  | [], _ => none
  | _ :: _, 0 => some 0
  | c :: t, n + 1 => (charOffset? t n).map (c.utf8Size + ·)

/-- A character starts where those in front of it end. -/
theorem charOffset?_eq (t : Text) (n : Nat) :
    charOffset? t n = if n < t.length then some (byteLength (t.take n)) else none := by
  fun_induction charOffset? t n with
  | case1 => simp
  | case2 => simp
  | case3 c t n ih =>
    rw [ih, List.take_succ_cons, byteLength_cons, List.length_cons]
    by_cases h : n < t.length
    · rw [if_pos h, if_pos (by omega)]
      rfl
    · rw [if_neg h, if_neg (by omega)]
      rfl

/-- A text can be cut in front of each of its characters. -/
theorem inRange_of_charOffset? {t : Text} {n i : Nat} (h : charOffset? t n = some i) :
    InRange t i := by
  rw [charOffset?_eq] at h
  split at h
  · apply inRange_iff.mpr
    exact ⟨t.take n, t.drop n, (List.take_append_drop n t).symm, Option.some.inj h⟩
  · cases h

end Text

end CommentSwitch
