import CommentSwitch.Text.Basic

/-!
# White space

The characters that count as blank, trimming, and indentation.  Blank means the
Unicode property `White_Space`: tabs, line ends, the no-break space and the
typographic spaces belong to it, the zero-width space and the byte order mark
do not.  Indentation is counted in characters.

- `Text.leadingBlank_append_trimStart`: a line is its leading blank and the rest
- `Text.trim_eq_nil_iff`: what trims to nothing is blank throughout
-/

namespace CommentSwitch

namespace Text

/-! ## §1 Blank characters -/

/-- The Unicode property `White_Space`. -/
def isBlank (c : Char) : Bool :=
  let n := c.toNat
  (0x09 ≤ n && n ≤ 0x0D) || n == 0x20 || n == 0x85 || n == 0xA0 || n == 0x1680
    || (0x2000 ≤ n && n ≤ 0x200A) || n == 0x2028 || n == 0x2029 || n == 0x202F
    || n == 0x205F || n == 0x3000

theorem isBlank_of_isWhitespace {c : Char} (h : c.isWhitespace = true) :
    isBlank c = true := by
  simp only [Char.isWhitespace, Bool.or_eq_true, decide_eq_true_eq] at h
  rcases h with ((rfl | rfl) | rfl) | rfl <;> decide

/-! ## §2 Trimming -/

/-- Drops the blank at the start. -/
def trimStart (t : Text) : Text := t.dropWhile isBlank

/-- Drops the blank at the end. -/
def trimEnd (t : Text) : Text := (t.reverse.dropWhile isBlank).reverse

/-- Drops the blank at both ends. -/
def trim (t : Text) : Text := trimEnd (trimStart t)

/-- Whether a text holds nothing but blank. -/
def isBlankLine (t : Text) : Bool := t.all isBlank

/-! ## §3 Indentation -/

/-- The blank at the start of a line. -/
def leadingBlank (line : Text) : Text := line.takeWhile isBlank

/-- The number of blank characters at the start of a line. -/
def indentation (line : Text) : Nat := (leadingBlank line).length

/-- A run of ordinary spaces. -/
def spaces (n : Nat) : Text := List.replicate n ' '

theorem leadingBlank_append_trimStart (line : Text) :
    leadingBlank line ++ trimStart line = line :=
  List.takeWhile_append_dropWhile

theorem dropWhile_eq_nil_iff_all {p : Char → Bool} {t : Text} :
    t.dropWhile p = [] ↔ ∀ c ∈ t, p c = true := by
  induction t with
  | nil => simp
  | cons c t ih => by_cases h : p c <;> simp [List.dropWhile, h, ih]

theorem trimEnd_eq_nil_iff {t : Text} : trimEnd t = [] ↔ ∀ c ∈ t, isBlank c = true := by
  rw [trimEnd, List.reverse_eq_nil_iff, dropWhile_eq_nil_iff_all]
  simp only [List.mem_reverse]

/-- A text trims to nothing exactly when it is blank throughout. -/
theorem trim_eq_nil_iff {t : Text} : trim t = [] ↔ ∀ c ∈ t, isBlank c = true := by
  rw [trim, trimEnd_eq_nil_iff]
  constructor
  · intro h c hc
    rw [← leadingBlank_append_trimStart t, List.mem_append] at hc
    rcases hc with hc | hc
    · exact List.all_eq_true.1 List.all_takeWhile c hc
    · exact h c hc
  · exact fun h c hc => h c ((List.dropWhile_suffix _).subset hc)

end Text

end CommentSwitch
