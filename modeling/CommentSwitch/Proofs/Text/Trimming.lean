import CommentSwitch.Text.Blank
import Mathlib.Data.List.DropRight
import Mathlib.Data.List.TakeWhile

/-!
# Laws of trimming

How trimming, leading blank and indentation act on a text that is put together
from blank and a text that needs no trimming.

- `Text.trimEnd_append_of_trimmed`: what follows a trimmed text is trimmed at its end
- `Text.trim_drop`: a line may lose part of its indentation without its trimmed
  form changing
-/

namespace CommentSwitch

namespace Text

/-! ## §1 Blank parts of a text -/

theorem isBlank_of_mem_leadingBlank {line : Text} {c : Char} (h : c ∈ leadingBlank line) :
    isBlank c = true :=
  List.mem_takeWhile_imp h

theorem isBlank_of_mem_spaces {n : Nat} {c : Char} (h : c ∈ spaces n) : isBlank c = true := by
  rw [List.eq_of_mem_replicate h]
  decide

/-- The first characters of a line, up to its indentation, belong to its leading blank. -/
theorem take_eq_take_leadingBlank {line : Text} {d : Nat} (hd : d ≤ indentation line) :
    line.take d = (leadingBlank line).take d := by
  conv_lhs => rw [← leadingBlank_append_trimStart line]
  exact List.take_append_of_le_length hd

theorem isBlank_of_mem_take {line : Text} {d : Nat} (hd : d ≤ indentation line) {c : Char}
    (h : c ∈ line.take d) : isBlank c = true := by
  rw [take_eq_take_leadingBlank hd] at h
  exact isBlank_of_mem_leadingBlank (List.mem_of_mem_take h)

/-! ## §2 Trimming after blank -/

theorem trimStart_append_of_blank {s t : Text} (hs : ∀ c ∈ s, isBlank c = true) :
    trimStart (s ++ t) = trimStart t :=
  List.dropWhile_append_of_pos hs

theorem leadingBlank_append_of_blank {s t : Text} (hs : ∀ c ∈ s, isBlank c = true) :
    leadingBlank (s ++ t) = s ++ leadingBlank t :=
  List.takeWhile_append_of_pos hs

theorem trim_append_of_blank {s t : Text} (hs : ∀ c ∈ s, isBlank c = true) :
    trim (s ++ t) = trim t := by
  rw [trim, trimStart_append_of_blank hs, trim]

theorem trim_cons_space (t : Text) : trim (' ' :: t) = trim t := by
  simp [trim, trimStart, show isBlank ' ' = true by decide]

theorem trimEnd_append_blank {s t : Text} (hs : ∀ c ∈ s, isBlank c = true) :
    trimEnd (t ++ s) = trimEnd t := by
  have hreverse : ∀ c ∈ s.reverse, isBlank c = true := fun c hc => hs c (List.mem_reverse.mp hc)
  rw [trimEnd, List.reverse_append, List.dropWhile_append_of_pos hreverse, trimEnd]

theorem trim_append_blank {s t : Text} (hs : ∀ c ∈ s, isBlank c = true) :
    trim (t ++ s) = trim t := by
  have hstart : trimStart s = [] := dropWhile_eq_nil_iff_all.mpr hs
  rw [trim, trimStart, List.dropWhile_append]
  split
  · next h =>
    -- The whole text is blank, so nothing of `t` remains on either side.
    have ht : trimStart t = [] := List.isEmpty_iff.mp h
    rw [trim, ht]
    exact congrArg trimEnd hstart
  · exact trimEnd_append_blank hs

theorem isBlankLine_iff {t : Text} : isBlankLine t = true ↔ trim t = [] := by
  rw [isBlankLine, List.all_eq_true, trim_eq_nil_iff]

/-- A line may lose part of its indentation without its trimmed form changing. -/
theorem trim_drop {line : Text} {d : Nat} (hd : d ≤ indentation line) :
    trim (line.drop d) = trim line := by
  conv_rhs => rw [← List.take_append_drop d line]
  exact (trim_append_of_blank fun c hc => isBlank_of_mem_take hd hc).symm

theorem trim_trimEnd (t : Text) : trim (trimEnd t) = trim t := by
  have hsplit : trimEnd t ++ t.rtakeWhile isBlank = t := List.rdropWhile_append_rtakeWhile
  conv_rhs => rw [← hsplit]
  exact (trim_append_blank fun c hc => List.mem_rtakeWhile_imp hc).symm

/-! ## §3 Texts that need no trimming -/

theorem trim_prefix_trimStart (line : Text) : trim line <+: trimStart line :=
  List.rdropWhile_prefix isBlank _

theorem trimStart_eq_self {t : Text} (ht : trim t = t) : trimStart t = t := by
  have hlength : t.length ≤ (trimStart t).length := by
    conv_lhs => rw [← ht]
    exact (trim_prefix_trimStart t).length_le
  exact (List.dropWhile_suffix isBlank).eq_of_length_le hlength

theorem trimEnd_eq_self {t : Text} (ht : trim t = t) : trimEnd t = t := by
  conv_rhs => rw [← ht]
  rw [trim, trimStart_eq_self ht]

/-- Without blank at its ends nothing of a text is trimmed. -/
theorem trim_eq_self_of_ends {t : Text} (hhead : ∀ c, t.head? = some c → isBlank c = false)
    (hlast : ∀ c, t.getLast? = some c → isBlank c = false) : trim t = t := by
  have hkeep (u : Text) (hu : ∀ c, u.head? = some c → isBlank c = false) :
      u.dropWhile isBlank = u := by
    cases u with
    | nil => rfl
    | cons c rest =>
      rw [List.dropWhile_cons, hu c rfl]
      rfl
  unfold trim trimEnd trimStart
  rw [hkeep t hhead, hkeep t.reverse, List.reverse_reverse]
  intro c hc
  rw [List.head?_reverse] at hc
  exact hlast c hc

theorem trim_eq_self {t : Text} (ht : ∀ c ∈ t, isBlank c = false) : trim t = t := by
  apply trim_eq_self_of_ends
  · intro c hc
    exact ht c (List.mem_of_mem_head? hc)
  · intro c hc
    exact ht c (List.mem_of_getLast? hc)

theorem trim_sublist (t : Text) : (trim t).Sublist t :=
  (trim_prefix_trimStart t).sublist.trans (List.dropWhile_sublist isBlank)

theorem isInfix_trim (t : Text) : trim t <:+: t :=
  (trim_prefix_trimStart t).isInfix.trans (List.dropWhile_suffix isBlank).isInfix

theorem isBlank_of_getLast?_trim {t : Text} {c : Char} (hc : (trim t).getLast? = some c) :
    isBlank c = false := by
  unfold trim trimEnd at hc
  rw [List.getLast?_reverse] at hc
  have hhead := List.head?_dropWhile_not isBlank (trimStart t).reverse
  rw [hc] at hhead
  exact hhead

/-- A trimmed text begins with a character that is not blank. -/
theorem exists_cons_of_trimmed {t : Text} (ht : trim t = t) (hne : t ≠ []) :
    ∃ c rest, t = c :: rest ∧ isBlank c = false := by
  obtain ⟨c, rest, rfl⟩ := List.exists_cons_of_ne_nil hne
  have hhead := List.dropWhile_eq_self_iff.mp (trimStart_eq_self ht) (Nat.succ_pos _)
  exact ⟨c, rest, rfl, by simpa using hhead⟩

theorem isBlankLine_of_trimmed {t : Text} (ht : trim t = t) (hne : t ≠ []) :
    isBlankLine t = false := by
  obtain ⟨c, rest, rfl, hc⟩ := exists_cons_of_trimmed ht hne
  simp [isBlankLine, hc]

theorem trimStart_append_of_trimmed {t u : Text} (ht : trim t = t) (hne : t ≠ []) :
    trimStart (t ++ u) = t ++ u := by
  obtain ⟨c, rest, rfl, hc⟩ := exists_cons_of_trimmed ht hne
  simp [trimStart, hc]

theorem leadingBlank_append_of_trimmed {t u : Text} (ht : trim t = t) (hne : t ≠ []) :
    leadingBlank (t ++ u) = [] := by
  obtain ⟨c, rest, rfl, hc⟩ := exists_cons_of_trimmed ht hne
  simp [leadingBlank, hc]

theorem trimEnd_append_of_trimmed {t u : Text} (ht : trim t = t) :
    trimEnd (t ++ u) = t ++ trimEnd u := by
  have hend : t.reverse.dropWhile isBlank = t.reverse := by
    simpa [trimEnd] using congrArg List.reverse (trimEnd_eq_self ht)
  rw [trimEnd, List.reverse_append, List.dropWhile_append]
  split
  · next h => simp [trimEnd, hend, List.isEmpty_iff.mp h]
  · simp [trimEnd]

end Text

end CommentSwitch
