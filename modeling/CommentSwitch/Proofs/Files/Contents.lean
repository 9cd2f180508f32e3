import CommentSwitch.Files.FileSystem
import CommentSwitch.Proofs.Text.Trimming
import CommentSwitch.Text.Lines

/-!
# Contents

How texts and lines come back from what is written of them.  A text comes back as it is.  Of
lines only those come back unchanged that do not end with a carriage return, since the line
feed behind them takes it away.

- `FileSystem.textOf?_bytesOf`: a text comes back
- `Text.lines_unlines`: lines come back without the carriage return at their end
- `Text.unlines_map_dropReturn_eq_iff`: when that makes no difference
-/

namespace CommentSwitch

/-! ## §1 Texts -/

namespace FileSystem

@[simp] theorem textOf?_bytesOf (t : Text) : textOf? (bytesOf t) = some t := by
  have hvalid : (bytesOf t).IsValidUTF8 := t.asString.isValidUTF8
  have hstring : String.fromUTF8? (bytesOf t) = some t.asString := dif_pos hvalid
  rw [textOf?, hstring, Option.map_some, Text.ofString_asString]

@[simp] theorem bytesOf_inj {t u : Text} : bytesOf t = bytesOf u ↔ t = u := by
  constructor
  · intro h
    have htext := textOf?_bytesOf t
    rw [h, textOf?_bytesOf] at htext
    exact (Option.some.inj htext).symm
  · rintro rfl
    rfl

end FileSystem

/-! ## §2 Lines -/

namespace Text

theorem dropReturn_of_not {line : Text} (h : line.getLast? ≠ some '\r') : dropReturn line = line :=
  if_neg h

theorem dropReturn_concat (line : Text) : dropReturn (line ++ ['\r']) = line := by
  simp [dropReturn]

/-- A line that ends with a carriage return is longer than without it. -/
theorem length_dropReturn_lt {line : Text} (h : line.getLast? = some '\r') :
    (dropReturn line).length < line.length := by
  obtain ⟨front, rfl⟩ := List.getLast?_eq_some_iff.mp h
  rw [dropReturn_concat]
  simp

theorem length_dropReturn_le (line : Text) : (dropReturn line).length ≤ line.length := by
  by_cases h : line.getLast? = some '\r'
  · exact (length_dropReturn_lt h).le
  · rw [dropReturn_of_not h]

theorem dropReturn_isPrefix (line : Text) : dropReturn line <+: line := by
  rw [dropReturn]
  split
  · exact List.dropLast_prefix line
  · exact List.prefix_refl line

/-- A carriage return at the end counts as blank. -/
theorem trim_dropReturn (line : Text) : trim (dropReturn line) = trim line := by
  by_cases h : line.getLast? = some '\r'
  · obtain ⟨front, rfl⟩ := List.getLast?_eq_some_iff.mp h
    have hblank : ∀ c ∈ ['\r'], isBlank c = true := by
      intro c hc
      rw [List.mem_singleton.mp hc]
      rfl
    rw [dropReturn_concat, trim_append_blank hblank]
  · rw [dropReturn_of_not h]

/-- No line has a line feed in it. -/
theorem not_mem_of_mem_linesFrom {start content : Text} (hstart : '\n' ∉ start) :
    ∀ line ∈ linesFrom start content, '\n' ∉ line := by
  induction content generalizing start with
  | nil =>
    rw [linesFrom]
    split
    · nofun
    · simpa using hstart
  | cons c content ih =>
    rw [linesFrom]
    split
    · refine List.forall_mem_cons.mpr ⟨fun hmem => ?_, ih (by simp)⟩
      exact hstart (List.mem_reverse.mp ((dropReturn_isPrefix _).subset hmem))
    · next hc => exact ih (by simp [hstart, Ne.symm hc])

theorem not_mem_of_mem_lines {content line : Text} (h : line ∈ lines content) : '\n' ∉ line :=
  not_mem_of_mem_linesFrom (by simp) line h

/-- A line feed ends the line in front of it. -/
theorem linesFrom_append {line : Text} (hline : '\n' ∉ line) (start rest : Text) :
    linesFrom start (line ++ '\n' :: rest) =
      dropReturn (start.reverse ++ line) :: linesFrom [] rest := by
  induction line generalizing start with
  | nil => simp [linesFrom]
  | cons c line ih =>
    obtain ⟨hc, hline⟩ : '\n' ≠ c ∧ '\n' ∉ line := by simpa using hline
    rw [List.cons_append, linesFrom, if_neg hc.symm, ih hline]
    simp

/-- Lines that are written come back without the carriage return at their end. -/
theorem lines_unlines {ls : List Text} (h : ∀ line ∈ ls, '\n' ∉ line) :
    lines (unlines ls) = ls.map dropReturn := by
  induction ls with
  | nil => rfl
  | cons line ls ih =>
    obtain ⟨hline, hls⟩ := List.forall_mem_cons.mp h
    rw [unlines, List.flatMap_cons, List.append_assoc, lines]
    refine (linesFrom_append hline [] _).trans ?_
    rw [List.map_cons]
    exact congrArg (_ :: ·) (ih hls)

theorem length_unlines_map_dropReturn_le (ls : List Text) :
    (unlines (ls.map dropReturn)).length ≤ (unlines ls).length := by
  induction ls with
  | nil => rfl
  | cons line ls ih =>
    have hline := length_dropReturn_le line
    simp only [unlines, List.map_cons, List.flatMap_cons, List.length_append] at ih ⊢
    omega

/-- Lines are written alike without the carriage returns at their ends exactly if there are
none. -/
theorem unlines_map_dropReturn_eq_iff {ls : List Text} :
    unlines (ls.map dropReturn) = unlines ls ↔ ∀ line ∈ ls, line.getLast? ≠ some '\r' := by
  induction ls with
  | nil => simp
  | cons line ls ih =>
    rw [List.forall_mem_cons, ← ih]
    by_cases hreturn : line.getLast? = some '\r'
    · -- The text gets shorter, whatever follows.
      simp only [hreturn, ne_eq, not_true_eq_false, false_and, iff_false]
      intro heq
      have hlength := congrArg List.length heq
      have hline := length_dropReturn_lt hreturn
      have hrest := length_unlines_map_dropReturn_le ls
      simp only [unlines, List.map_cons, List.flatMap_cons, List.length_append] at hlength hrest
      omega
    · simp [unlines, dropReturn_of_not hreturn, hreturn]

end Text

end CommentSwitch
