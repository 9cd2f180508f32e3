import CommentSwitch.Keywords.Basic
import CommentSwitch.Text.Blank
import Mathlib.Data.List.Induction
import Mathlib.Data.List.Basic

/-!
# Nesting of blocks

Which blocks are open at a place of a file, told from the lines in front of it and from
nothing else.  An `if` line raises the level and an `endif` line lowers it; a branch of a
block is open as long as the lines behind its first line do not leave the level they
start at.

- `Nesting.Inside.level_nonneg`: lines that stay inside a branch never fall below it
- `Nesting.OpenAt.cases_concat`: the three ways in which a branch is open behind one more
  line
- `Nesting.openAt_concat_of_code`, `Nesting.openAt_concat_of_closes` and their like: what
  a line of each kind does to the branches that are open
-/

namespace CommentSwitch

namespace Keywords

/-! ## §1 Effects of a line -/

/-- Whether a line opens a block. -/
def opens (k : Keywords) (line : Text) : Bool :=
  k.classify (Text.trim line) matches .opening _

/-- Whether a line opens a further branch of a block. -/
def continues (k : Keywords) (line : Text) : Bool :=
  match k.classify (Text.trim line) with
  | .branch _ | .otherwise => true
  | _ => false

/-- Whether a line opens an `else` branch. -/
def opensElse (k : Keywords) (line : Text) : Bool := k.classify (Text.trim line) == .otherwise

/-- Whether a line closes a block. -/
def closes (k : Keywords) (line : Text) : Bool := k.classify (Text.trim line) == .closing

theorem opens_eq_true_iff {k : Keywords} {line : Text} :
    k.opens line = true ↔ ∃ rest, k.classify (Text.trim line) = .opening rest := by
  unfold opens
  split <;> simp_all

theorem closes_eq_true_iff {k : Keywords} {line : Text} :
    k.closes line = true ↔ k.classify (Text.trim line) = .closing := beq_iff_eq

theorem continues_eq_true_iff {k : Keywords} {line : Text} :
    k.continues line = true ↔
      (∃ rest, k.classify (Text.trim line) = .branch rest) ∨
        k.classify (Text.trim line) = .otherwise := by
  unfold continues
  split <;> simp_all

theorem closes_of_opens {k : Keywords} {line : Text} (h : k.opens line = true) :
    k.closes line = false := by
  unfold opens at h
  unfold closes
  split at h <;> simp_all

theorem opens_of_closes {k : Keywords} {line : Text} (h : k.closes line = true) :
    k.opens line = false := by
  cases hopens : k.opens line with
  | false => rfl
  | true => simp [closes_of_opens hopens] at h

end Keywords

namespace Nesting

/-! ## §2 Levels -/

section Levels

variable {k : Keywords}

/-- How many blocks more the lines open than they close. -/
def level (k : Keywords) (lines : List Text) : Int :=
  (lines.countP k.opens : Int) - lines.countP k.closes

@[simp] theorem level_nil : level k [] = 0 := rfl

theorem level_append (first second : List Text) :
    level k (first ++ second) = level k first + level k second := by
  simp only [level, List.countP_append]
  omega

theorem level_of_opens {line : Text} (hline : k.opens line = true) : level k [line] = 1 := by
  simp [level, hline, Keywords.closes_of_opens hline]

theorem level_of_closes {line : Text} (hline : k.closes line = true) : level k [line] = -1 := by
  simp [level, hline, Keywords.opens_of_closes hline]

theorem level_of_neither {line : Text} (hopens : k.opens line = false)
    (hcloses : k.closes line = false) : level k [line] = 0 := by
  simp [level, hopens, hcloses]

/-- Lines that stay inside the branch they stand in: as long as no block is open among
them, no line goes on with a block or closes one. -/
def Inside (k : Keywords) (lines : List Text) : Prop :=
  ∀ before line after, lines = before ++ line :: after → level k before = 0 →
    k.continues line = false ∧ k.closes line = false

theorem inside_nil : Inside k [] := by
  intro before line after h
  simp at h

/-- What holds of every line of a list, given the lines before it. -/
theorem forall_split_concat_iff {α : Type} {P : List α → α → Prop} {l : List α} {last : α} :
    (∀ before a after, l ++ [last] = before ++ a :: after → P before a) ↔
      (∀ before a after, l = before ++ a :: after → P before a) ∧ P l last := by
  constructor
  · intro h
    refine ⟨fun before a after hsplit => ?_, h l last [] rfl⟩
    exact h before a (after ++ [last]) (by simp [hsplit])
  · rintro ⟨hinit, hlast⟩ before a after hsplit
    rcases List.eq_nil_or_concat after with rfl | ⟨after, last', rfl⟩
    · obtain ⟨rfl, ha⟩ := List.append_inj' hsplit rfl
      cases ha
      exact hlast
    · rw [List.concat_eq_append, ← List.cons_append, ← List.append_assoc] at hsplit
      exact hinit before a after (List.append_inj' hsplit rfl).1

/-- What holds of some line of a list, given the lines before it. -/
theorem exists_split_concat_iff {α : Type} {P : List α → α → Prop} {l : List α} {last : α} :
    (∃ before a after, l ++ [last] = before ++ a :: after ∧ P before a) ↔
      (∃ before a after, l = before ++ a :: after ∧ P before a) ∨ P l last := by
  have hnone : ¬ (∀ before a after, l ++ [last] = before ++ a :: after → ¬ P before a) ↔
      ¬ ((∀ before a after, l = before ++ a :: after → ¬ P before a) ∧ ¬ P l last) :=
    not_congr forall_split_concat_iff
  simpa only [not_forall, not_and_or, Classical.not_not, exists_prop] using hnone

theorem inside_concat_iff {lines : List Text} {line : Text} :
    Inside k (lines ++ [line]) ↔
      Inside k lines ∧
        (level k lines = 0 → k.continues line = false ∧ k.closes line = false) :=
  forall_split_concat_iff

/-- Lines that stay inside a branch never fall below it. -/
theorem Inside.level_nonneg {lines : List Text} (h : Inside k lines) : 0 ≤ level k lines := by
  induction lines using List.reverseRecOn with
  | nil => simp
  | append_singleton lines line ih =>
    obtain ⟨hlines, hline⟩ := inside_concat_iff.mp h
    have hpos := ih hlines
    rw [level_append]
    by_cases hopens : k.opens line = true
    · rw [level_of_opens hopens]
      omega
    by_cases hcloses : k.closes line = true
    · -- A line that closes a block does so above the level of the branch.
      have hne : level k lines ≠ 0 := fun h0 => by simp [hcloses] at hline; exact hline h0
      rw [level_of_closes hcloses]
      omega
    · rw [level_of_neither (by simpa using hopens) (by simpa using hcloses)]
      omega

end Levels

/-! ## §3 Open branches -/

/-- A branch of a block: the line that opens it, and the lines in it. -/
structure Branch where
  opening : Text
  body : List Text

namespace Branch

/-- The lines of a branch. -/
def lines (b : Branch) : List Text := b.opening :: b.body

/-- The branch with one more line in it. -/
def grow (b : Branch) (line : Text) : Branch := ⟨b.opening, b.body ++ [line]⟩

/-- The branch that a line opens. -/
def fresh (line : Text) : Branch := ⟨line, []⟩

@[simp] theorem opening_grow (b : Branch) (line : Text) : (b.grow line).opening = b.opening :=
  rfl

@[simp] theorem opening_fresh (line : Text) : (fresh line).opening = line := rfl

theorem lines_grow (b : Branch) (line : Text) : (b.grow line).lines = b.lines ++ [line] := rfl

theorem eq_fresh_or_grow (b : Branch) :
    b = fresh b.opening ∨ ∃ b' line, b = grow b' line := by
  obtain ⟨opening, body⟩ := b
  rcases List.eq_nil_or_concat body with rfl | ⟨body, line, rfl⟩
  · exact .inl rfl
  · exact .inr ⟨⟨opening, body⟩, line, by simp [grow]⟩

end Branch

/-- The lines of some branches. -/
def linesOf (branches : List Branch) : List Text := branches.flatMap Branch.lines

theorem linesOf_concat (branches : List Branch) (b : Branch) :
    linesOf (branches ++ [b]) = linesOf branches ++ b.lines := by
  simp [linesOf]

section Open

variable (k : Keywords)

/-- The branches of one block: the first is opened by an `if` line, and each other one by
an `elseif` or an `else` line. -/
def IsBlock : List Branch → Prop
  | [] => False
  | first :: others =>
    k.opens first.opening = true ∧ ∀ b ∈ others, k.continues b.opening = true

/-- The lines of a branch stay inside it and close all blocks that they open. -/
def Complete (b : Branch) : Prop := Inside k b.body ∧ level k b.body = 0

/-- Behind the lines `before`, the branch `current` is being read, which follows the
branches `earlier` of its block, and `inner` blocks are open within it. -/
structure OpenAt (before : List Text) (inner : Nat) (earlier : List Branch)
    (current : Branch) : Prop where
  split : ∃ outside, before = outside ++ (linesOf earlier ++ current.lines)
  block : IsBlock k (earlier ++ [current])
  complete : ∀ b ∈ earlier, Complete k b
  inside : Inside k current.body
  level_eq : level k current.body = inner

end Open

section Open

variable {k : Keywords} {before : List Text} {line : Text} {inner : Nat}
  {earlier : List Branch} {current : Branch}

theorem isBlock_singleton {b : Branch} : IsBlock k [b] ↔ k.opens b.opening = true := by
  simp [IsBlock]

theorem isBlock_concat_iff {branches : List Branch} {b : Branch} (hne : branches ≠ []) :
    IsBlock k (branches ++ [b]) ↔ IsBlock k branches ∧ k.continues b.opening = true := by
  cases branches with
  | nil => exact absurd rfl hne
  | cons first others =>
    simp only [List.cons_append, IsBlock, List.mem_append, List.mem_singleton, or_imp,
      forall_and, forall_eq, and_assoc]

theorem isBlock_concat_congr {branches : List Branch} {b b' : Branch}
    (h : IsBlock k (branches ++ [b])) (hopening : b'.opening = b.opening) :
    IsBlock k (branches ++ [b']) := by
  by_cases hne : branches = []
  · subst hne
    exact isBlock_singleton.mpr (hopening ▸ isBlock_singleton.mp h)
  · obtain ⟨hbranches, hb⟩ := (isBlock_concat_iff hne).mp h
    exact (isBlock_concat_iff hne).mpr ⟨hbranches, hopening ▸ hb⟩

/-- An `if` line opens a block. -/
theorem OpenAt.of_opens (before : List Text) (hline : k.opens line = true) :
    OpenAt k (before ++ [line]) 0 [] (.fresh line) where
  split := ⟨before, rfl⟩
  block := isBlock_singleton.mpr hline
  complete := by simp
  inside := inside_nil
  level_eq := rfl

/-- An `elseif` or `else` line ends the innermost branch and opens the next one. -/
theorem OpenAt.next (h : OpenAt k before 0 earlier current) (hline : k.continues line = true) :
    OpenAt k (before ++ [line]) 0 (earlier ++ [current]) (.fresh line) where
  split := by
    obtain ⟨outside, rfl⟩ := h.split
    exact ⟨outside, by simp [linesOf_concat, Branch.lines, Branch.fresh]⟩
  block := (isBlock_concat_iff (by simp)).mpr ⟨h.block, hline⟩
  complete := by
    intro b hb
    rcases List.mem_append.mp hb with hb | hb
    · exact h.complete b hb
    · rw [List.mem_singleton.mp hb]
      exact ⟨h.inside, h.level_eq⟩
  inside := inside_nil
  level_eq := rfl

/-- Any other line belongs to the branches that stay open behind it. -/
theorem OpenAt.grow {inner' : Nat} (h : OpenAt k before inner earlier current)
    (hline : inner = 0 → k.continues line = false ∧ k.closes line = false)
    (hinner : (inner' : Int) = inner + level k [line]) :
    OpenAt k (before ++ [line]) inner' earlier (current.grow line) where
  split := by
    obtain ⟨outside, rfl⟩ := h.split
    exact ⟨outside, by simp [Branch.lines_grow]⟩
  block := isBlock_concat_congr h.block rfl
  complete := h.complete
  inside := inside_concat_iff.mpr ⟨h.inside, fun h0 => hline (by have := h.level_eq; omega)⟩
  level_eq := by
    rw [Branch.grow, level_append, h.level_eq, hinner]

/-- The three ways in which a branch is open behind one more line. -/
theorem OpenAt.cases_concat (h : OpenAt k (before ++ [line]) inner earlier current) :
    (k.opens line = true ∧ inner = 0 ∧ earlier = [] ∧ current = .fresh line) ∨
    (k.continues line = true ∧ inner = 0 ∧ current = .fresh line ∧
      ∃ earlier' b, earlier = earlier' ++ [b] ∧ OpenAt k before 0 earlier' b) ∨
    (∃ m b, current = b.grow line ∧ OpenAt k before m earlier b ∧
      (m = 0 → k.continues line = false ∧ k.closes line = false) ∧
      (inner : Int) = m + level k [line]) := by
  obtain ⟨outside, hsplit⟩ := h.split
  rcases current.eq_fresh_or_grow with hfresh | ⟨b, last, rfl⟩
  · -- The line opens the branch.
    rw [hfresh] at hsplit
    obtain ⟨hbefore, hline⟩ : before = outside ++ linesOf earlier ∧ line = current.opening := by
      rw [← List.append_assoc] at hsplit
      simpa [Branch.lines, Branch.fresh] using List.append_inj' hsplit rfl
    have hcurrent : current = .fresh line := by rw [hline]; exact hfresh
    have hinner : inner = 0 := by
      have hlevel := h.level_eq
      rw [hcurrent] at hlevel
      exact (Int.ofNat_eq_zero.mp hlevel.symm)
    rcases List.eq_nil_or_concat earlier with rfl | ⟨earlier, b, rfl⟩
    · refine .inl ⟨?_, hinner, rfl, hcurrent⟩
      rw [hline]
      exact isBlock_singleton.mp h.block
    · rw [List.concat_eq_append] at *
      obtain ⟨hblock, hcontinues⟩ := (isBlock_concat_iff (by simp)).mp h.block
      have hb := h.complete b (by simp)
      refine .inr (.inl ⟨by rw [hline]; exact hcontinues, hinner, hcurrent, earlier, b, rfl, ?_⟩)
      exact
        { split := ⟨outside, by rw [hbefore, linesOf_concat]⟩
          block := hblock
          complete := fun b' hb' => h.complete b' (by simp [hb'])
          inside := hb.1
          level_eq := hb.2 }
  · -- The line belongs to the branch.
    obtain ⟨hbefore, rfl⟩ :
        before = outside ++ (linesOf earlier ++ b.lines) ∧ line = last := by
      rw [Branch.lines_grow, ← List.append_assoc, ← List.append_assoc] at hsplit
      simpa using List.append_inj' hsplit rfl
    obtain ⟨hinside, hline⟩ := inside_concat_iff.mp h.inside
    obtain ⟨m, hm⟩ := Int.eq_ofNat_of_zero_le hinside.level_nonneg
    refine .inr (.inr ⟨m, b, rfl, ?_, fun h0 => hline (by omega), ?_⟩)
    · exact ⟨⟨outside, hbefore⟩, isBlock_concat_congr h.block rfl, h.complete, hinside, hm⟩
    · rw [← h.level_eq, Branch.grow, level_append, hm]

theorem not_openAt_nil : ¬ OpenAt k [] inner earlier current := by
  intro h
  obtain ⟨outside, hsplit⟩ := h.split
  simp [Branch.lines] at hsplit

/-- A line of code belongs to all branches that are open. -/
theorem openAt_concat_of_code (hline : k.classify (Text.trim line) = .code) :
    OpenAt k (before ++ [line]) inner earlier current ↔
      ∃ b, OpenAt k before inner earlier b ∧ current = b.grow line := by
  have hopens : k.opens line = false := by simp [Keywords.opens, hline]
  have hcontinues : k.continues line = false := by simp [Keywords.continues, hline]
  have hcloses : k.closes line = false := by simp [Keywords.closes, hline]
  have hlevel := level_of_neither hopens hcloses
  constructor
  · intro h
    rcases h.cases_concat with ⟨hline', -⟩ | ⟨hline', -⟩ | ⟨m, b, rfl, hb, -, hinner⟩
    · simp [hopens] at hline'
    · simp [hcontinues] at hline'
    · obtain rfl : inner = m := by omega
      exact ⟨b, hb, rfl⟩
  · rintro ⟨b, hb, rfl⟩
    exact hb.grow (fun _ => ⟨hcontinues, hcloses⟩) (by omega)

/-- An `if` line opens a branch of its own. -/
theorem openAt_zero_concat_of_opens (hline : k.opens line = true) :
    OpenAt k (before ++ [line]) 0 earlier current ↔ earlier = [] ∧ current = .fresh line := by
  obtain ⟨rest, hkind⟩ := Keywords.opens_eq_true_iff.mp hline
  have hlevel := level_of_opens hline
  constructor
  · intro h
    rcases h.cases_concat with ⟨-, -, h⟩ | ⟨hline', -⟩ | ⟨m, b, -, -, -, hinner⟩
    · exact h
    · simp [Keywords.continues, hkind] at hline'
    · omega
  · rintro ⟨rfl, rfl⟩
    exact .of_opens before hline

/-- An `if` line belongs to the branches that were open, which have one more block open
within them. -/
theorem openAt_succ_concat_of_opens (hline : k.opens line = true) :
    OpenAt k (before ++ [line]) (inner + 1) earlier current ↔
      ∃ b, OpenAt k before inner earlier b ∧ current = b.grow line := by
  obtain ⟨rest, hkind⟩ := Keywords.opens_eq_true_iff.mp hline
  have hcontinues : k.continues line = false := by simp [Keywords.continues, hkind]
  have hlevel := level_of_opens hline
  constructor
  · intro h
    rcases h.cases_concat with ⟨-, hinner, -⟩ | ⟨-, hinner, -⟩ | ⟨m, b, rfl, hb, -, hinner⟩
    · cases hinner
    · cases hinner
    · obtain rfl : inner = m := by omega
      exact ⟨b, hb, rfl⟩
  · rintro ⟨b, hb, rfl⟩
    exact hb.grow (fun _ => ⟨hcontinues, Keywords.closes_of_opens hline⟩) (by omega)

theorem level_of_continues (hline : k.continues line = true) : level k [line] = 0 := by
  rcases Keywords.continues_eq_true_iff.mp hline with ⟨rest, hkind⟩ | hkind <;>
    exact level_of_neither (by simp [Keywords.opens, hkind]) (by simp [Keywords.closes, hkind])

/-- An `elseif` or `else` line ends the innermost branch and opens the next one of its
block. -/
theorem openAt_zero_concat_of_continues (hline : k.continues line = true) :
    OpenAt k (before ++ [line]) 0 earlier current ↔
      ∃ earlier' b, OpenAt k before 0 earlier' b ∧ earlier = earlier' ++ [b] ∧
        current = .fresh line := by
  have hlevel := level_of_continues hline
  constructor
  · intro h
    rcases h.cases_concat with ⟨hline', -⟩ | ⟨-, -, rfl, earlier', b, rfl, hb⟩ |
      ⟨m, b, -, -, hm, hinner⟩
    · have := level_of_opens hline'
      omega
    · exact ⟨earlier', b, hb, rfl, rfl⟩
    · simp [hline] at hm
      omega
  · rintro ⟨earlier', b, hb, rfl, rfl⟩
    exact hb.next hline

/-- An `elseif` or `else` line belongs to the branches that have a block open within
them. -/
theorem openAt_succ_concat_of_continues (hline : k.continues line = true) :
    OpenAt k (before ++ [line]) (inner + 1) earlier current ↔
      ∃ b, OpenAt k before (inner + 1) earlier b ∧ current = b.grow line := by
  have hlevel := level_of_continues hline
  constructor
  · intro h
    rcases h.cases_concat with ⟨-, hinner, -⟩ | ⟨-, hinner, -⟩ | ⟨m, b, rfl, hb, -, hinner⟩
    · cases hinner
    · cases hinner
    · obtain rfl : m = inner + 1 := by omega
      exact ⟨b, hb, rfl⟩
  · rintro ⟨b, hb, rfl⟩
    exact hb.grow (by omega) (by omega)

/-- An `endif` line closes the innermost branch and belongs to all others. -/
theorem openAt_concat_of_closes (hline : k.closes line = true) :
    OpenAt k (before ++ [line]) inner earlier current ↔
      ∃ b, OpenAt k before (inner + 1) earlier b ∧ current = b.grow line := by
  have hopens := Keywords.opens_of_closes hline
  have hcontinues : k.continues line = false := by
    simp [Keywords.continues, Keywords.closes_eq_true_iff.mp hline]
  have hlevel := level_of_closes hline
  constructor
  · intro h
    rcases h.cases_concat with ⟨hline', -⟩ | ⟨hline', -⟩ | ⟨m, b, rfl, hb, -, hinner⟩
    · simp [hopens] at hline'
    · simp [hcontinues] at hline'
    · obtain rfl : m = inner + 1 := by omega
      exact ⟨b, hb, rfl⟩
  · rintro ⟨b, hb, rfl⟩
    exact hb.grow (by omega) (by omega)

end Open

end Nesting

end CommentSwitch
