import CommentSwitch.Proofs.Conversion.Acceptance

/-!
# The selected branches of a block

Of the branches of a block, a conversion selects the first whose condition is true; the
`else` branches are selected when no condition is.  Since a block may go on with a second
`else`, more than one branch can be selected, and then the lines of all of them are live.

- `Conversion.selectedBranch_iff`: which branches are selected
- `Conversion.silent_of_not_selectedBranch`: of other branches stripping leaves nothing
- `Conversion.convert_selects_one`: when there is at most one selected branch
- `Conversion.not_atMostOneSelected_twoElses`: a block with two selected branches
-/

namespace CommentSwitch

namespace Nesting

/-! ## §1 Whole blocks -/

/-- The lines hold a whole block: the lines `outside` come before it, and it has the given
branches and a line that closes it. -/
structure HoldsBlock (k : Keywords) (lines outside : List Text) (branches : List Branch) :
    Prop where
  split : ∃ closing after, k.closes closing = true ∧
    lines = outside ++ (linesOf branches ++ closing :: after)
  block : IsBlock k branches
  complete : ∀ b ∈ branches, Complete k b

section

variable {k : Keywords}

/-- A branch that holds nothing but lines of code is complete. -/
theorem complete_of_code {b : Branch}
    (h : ∀ line ∈ b.body, k.classify (Text.trim line) = .code) : Complete k b := by
  constructor
  · rintro before line after hsplit -
    have hline := h line (by simp [hsplit])
    simp [Keywords.continues, Keywords.closes, hline]
  · have hopens : b.body.countP k.opens = 0 :=
      List.countP_eq_zero.mpr fun line hline => by simp [Keywords.opens, h line hline]
    have hcloses : b.body.countP k.closes = 0 :=
      List.countP_eq_zero.mpr fun line hline => by simp [Keywords.closes, h line hline]
    rw [level, hopens, hcloses]
    rfl

theorem Inside.of_append {first second : List Text} (h : Inside k (first ++ second)) :
    Inside k first := by
  intro before line after hsplit
  exact h before line (after ++ second) (by simp [hsplit])

theorem IsBlock.take_succ {branches : List Branch} (h : IsBlock k branches) (i : Nat) :
    IsBlock k (branches.take (i + 1)) := by
  cases branches with
  | nil => exact h.elim
  | cons first others => exact ⟨h.1, fun b hb => h.2 b (List.mem_of_mem_take hb)⟩

theorem take_succ_of_getElem? {branches : List Branch} {i : Nat} {b : Branch}
    (hb : branches[i]? = some b) : branches.take (i + 1) = branches.take i ++ [b] := by
  rw [List.take_add_one, hb]
  rfl

theorem linesOf_of_getElem? {branches : List Branch} {i : Nat} {b : Branch}
    (hb : branches[i]? = some b) :
    linesOf branches =
      linesOf (branches.take i) ++ (b.lines ++ linesOf (branches.drop (i + 1))) := by
  conv_lhs => rw [← List.take_append_drop (i + 1) branches, take_succ_of_getElem? hb]
  simp [linesOf]

/-- While its branch with number `i` is read, the block is open. -/
theorem HoldsBlock.openAt {lines outside : List Text} {branches : List Branch} {i : Nat}
    {b : Branch} (h : HoldsBlock k lines outside branches) (hb : branches[i]? = some b)
    (first : List Text) {second : List Text} (hbody : b.body = first ++ second) :
    ∃ inner, OpenAt k (outside ++ (linesOf (branches.take i) ++ b.opening :: first)) inner
      (branches.take i) ⟨b.opening, first⟩ := by
  have hinside : Inside k first := by
    have hcomplete := (h.complete b (List.mem_of_getElem? hb)).1
    rw [hbody] at hcomplete
    exact hcomplete.of_append
  obtain ⟨inner, hinner⟩ := Int.eq_ofNat_of_zero_le hinside.level_nonneg
  have hblock : IsBlock k (branches.take i ++ [b]) :=
    take_succ_of_getElem? hb ▸ h.block.take_succ i
  exact ⟨inner,
    { split := ⟨outside, rfl⟩
      block := isBlock_concat_congr hblock rfl
      complete := fun b' hb' => h.complete b' (List.mem_of_mem_take hb')
      inside := hinside
      level_eq := hinner }⟩

/-- Behind the line that opens it, no block is open within a branch. -/
theorem HoldsBlock.openAt_opening {lines outside : List Text} {branches : List Branch} {i : Nat}
    {b : Branch} (h : HoldsBlock k lines outside branches) (hb : branches[i]? = some b) :
    OpenAt k (outside ++ (linesOf (branches.take i) ++ [b.opening])) 0 (branches.take i)
      (.fresh b.opening) := by
  obtain ⟨inner, hopen⟩ := h.openAt hb [] rfl
  have hinner : inner = 0 := by simpa using hopen.level_eq.symm
  exact hinner ▸ hopen

/-- At its end, no block is open within a branch. -/
theorem HoldsBlock.openAt_end {lines outside : List Text} {branches : List Branch} {i : Nat}
    {b : Branch} (h : HoldsBlock k lines outside branches) (hb : branches[i]? = some b) :
    OpenAt k (outside ++ (linesOf (branches.take i) ++ b.lines)) 0 (branches.take i) b := by
  obtain ⟨inner, hopen⟩ := h.openAt hb b.body (List.append_nil b.body).symm
  have hinner : inner = 0 := by
    have hlevel := (h.complete b (List.mem_of_getElem? hb)).2
    rw [hopen.level_eq] at hlevel
    omega
  exact hinner ▸ hopen

/-- The lines up to a place in the branch with number `i` begin the lines that hold the
block. -/
theorem HoldsBlock.begins {lines outside : List Text} {branches : List Branch} {i : Nat}
    {b : Branch} (h : HoldsBlock k lines outside branches) (hb : branches[i]? = some b)
    (first : List Text) {second : List Text} (hbody : b.body = first ++ second) :
    outside ++ (linesOf (branches.take i) ++ b.opening :: first) <+: lines := by
  obtain ⟨closing, after, -, rfl⟩ := h.split
  rw [linesOf_of_getElem? hb]
  exact ⟨second ++ linesOf (branches.drop (i + 1)) ++ closing :: after,
    by simp [Branch.lines, hbody]⟩

theorem IsBlock.classify_ne_code {branches : List Branch} (h : IsBlock k branches) {b : Branch}
    (hb : b ∈ branches) : k.classify (Text.trim b.opening) ≠ .code := by
  cases branches with
  | nil => cases hb
  | cons first others =>
    intro hcode
    rcases List.mem_cons.mp hb with rfl | hb
    · simpa [Keywords.opens, hcode] using h.1
    · simpa [Keywords.continues, hcode] using h.2 b hb

theorem IsBlock.continues_of_getElem? {branches : List Branch} (h : IsBlock k branches) {i : Nat}
    {b : Branch} (hb : branches[i + 1]? = some b) : k.continues b.opening = true := by
  cases branches with
  | nil => cases hb
  | cons first others => exact h.2 b (List.mem_of_getElem? hb)

end

end Nesting

namespace Conversion

open Nesting
open Keywords (Directive)

/-! ## §2 Selected branches -/

/-- The branch with number `i` is opened by an `else` line. -/
def ElseAt (k : Keywords) (branches : List Branch) (i : Nat) : Prop :=
  ∃ b, branches[i]? = some b ∧ k.opensElse b.opening = true

/-- The branch with number `i` has a true condition. -/
def TrueAt (vars : Variables) (k : Keywords) (branches : List Branch) (i : Nat) : Prop :=
  ∃ b, branches[i]? = some b ∧ lineHolds vars k b.opening = true

/-- The conversion selects the branch with number `i`, when it reads the line that opens
it. -/
def SelectedBranch (c : Conversion) (file : Option Text) (outside : List Text)
    (branches : List Branch) (i : Nat) : Prop :=
  ∃ b block outer output, branches[i]? = some b ∧
    run c.vars (c.keywords.forFile file) c.strip file 0 []
        (outside ++ (linesOf (branches.take i) ++ [b.opening])) = .ok (block :: outer, output) ∧
      block.selected = true

/-- The conversion selects no two branches. -/
def AtMostOneSelected (c : Conversion) (file : Option Text) (outside : List Text)
    (branches : List Branch) : Prop :=
  ∀ i j, SelectedBranch c file outside branches i → SelectedBranch c file outside branches j →
    i = j

section Selection

variable {c : Conversion} {file : Option Text} {lines outside out : List Text}
  {branches : List Branch}

theorem exists_run_of_begins {vars : Variables} {k : Keywords} {strip : Bool} {count : Nat}
    {stack last : BlockStack} {before : List Text} (hbegins : before <+: lines)
    (h : run vars k strip file count stack lines = .ok (last, out)) :
    ∃ mid output, run vars k strip file count stack before = .ok (mid, output) := by
  obtain ⟨after, rfl⟩ := hbegins
  obtain ⟨mid, output, more, hbefore, -⟩ := run_append_eq_ok_iff.mp h
  exact ⟨mid, output, hbefore⟩

theorem mem_take_iff {i : Nat} {b : Branch} :
    b ∈ branches.take i ↔ ∃ j < i, branches[j]? = some b := by
  simp only [List.mem_iff_getElem?, List.getElem?_take, Option.ite_none_right_eq_some]

theorem chosen_eq_true_iff {vars : Variables} {k : Keywords} {i : Nat} {b : Branch}
    (hb : branches[i]? = some b) :
    chosen vars k (branches.take i) b = true ↔
      (∀ j < i, ¬ TrueAt vars k branches j) ∧
        (ElseAt k branches i ∨ TrueAt vars k branches i) := by
  have hearlier : (branches.take i).any (fun b => lineHolds vars k b.opening) = false ↔
      ∀ j < i, ¬ TrueAt vars k branches j := by
    rw [List.any_eq_false]
    constructor
    · rintro h j hj ⟨b', hb', htrue⟩
      exact h b' (mem_take_iff.mpr ⟨j, hj, hb'⟩) htrue
    · intro h b' hb' htrue
      obtain ⟨j, hj, hb'⟩ := mem_take_iff.mp hb'
      exact h j hj ⟨b', hb', htrue⟩
  have helse : ElseAt k branches i ↔ k.opensElse b.opening = true := by simp [ElseAt, hb]
  have htrue : TrueAt vars k branches i ↔ lineHolds vars k b.opening = true := by
    simp [TrueAt, hb]
  rw [chosen, Bool.and_eq_true, Bool.or_eq_true, Bool.not_eq_true', hearlier, helse, htrue]

/-- Which branches are selected: the first with a true condition, and the `else` branches
that have no true condition before them. -/
theorem selectedBranch_iff (hconvert : c.convert file lines = .ok out)
    (hblock : HoldsBlock (c.keywords.forFile file) lines outside branches) (i : Nat) :
    SelectedBranch c file outside branches i ↔
      (∀ j < i, ¬ TrueAt c.vars (c.keywords.forFile file) branches j) ∧
        (ElseAt (c.keywords.forFile file) branches i ∨
          TrueAt c.vars (c.keywords.forFile file) branches i) := by
  constructor
  · rintro ⟨b, block, outer, output, hb, hrun, hselected⟩
    obtain ⟨outer', hstack⟩ := (tracks_of_run hrun).exists_outer (hblock.openAt_opening hb)
    cases hstack
    exact (chosen_eq_true_iff hb).mp hselected
  · intro h
    obtain ⟨b, hb⟩ : ∃ b, branches[i]? = some b := by
      rcases h.2 with ⟨b, hb, -⟩ | ⟨b, hb, -⟩ <;> exact ⟨b, hb⟩
    obtain ⟨stack, output, hrun⟩ :=
      exists_run_of_begins (hblock.begins hb [] rfl) (convert_eq_ok_iff.mp hconvert)
    obtain ⟨outer, rfl⟩ := (tracks_of_run hrun).exists_outer (hblock.openAt_opening hb)
    exact ⟨b, _, outer, output, hb, hrun, (chosen_eq_true_iff hb).mpr h⟩

theorem classify_ne_otherwise {vars : Variables} {k : Keywords} {line : Text}
    (h : lineHolds vars k line = true) : k.classify (Text.trim line) ≠ .otherwise := by
  intro hkind
  rw [lineHolds_of_otherwise hkind] at h
  cases h

/-- No condition of a block that is accepted stands behind an `else`. -/
theorem not_trueAt_of_elseAt (hconvert : c.convert file lines = .ok out)
    (hblock : HoldsBlock (c.keywords.forFile file) lines outside branches) {i m : Nat}
    (helse : ElseAt (c.keywords.forFile file) branches i) (him : i ≤ m) :
    ¬ TrueAt c.vars (c.keywords.forFile file) branches m := by
  rintro ⟨b, hb, htrue⟩
  obtain ⟨e, he, helse⟩ := helse
  rcases Nat.eq_or_lt_of_le him with rfl | him
  · obtain rfl : e = b := Option.some.inj (he.symm.trans hb)
    exact classify_ne_otherwise htrue (beq_iff_eq.mp helse)
  obtain ⟨m, rfl⟩ := Nat.exists_eq_succ_of_ne_zero (Nat.ne_zero_of_lt him)
  -- The branch before it is complete when the line with the condition is read.
  obtain ⟨b', hb'⟩ : ∃ b', branches[m]? = some b' := by
    have hlt := (List.getElem?_eq_some_iff.mp hb).1
    exact ⟨_, List.getElem?_eq_getElem (Nat.lt_of_succ_lt hlt)⟩
  have hseen : ∃ e ∈ branches.take m ++ [b'],
      (c.keywords.forFile file).opensElse e.opening = true :=
    ⟨e, take_succ_of_getElem? hb' ▸ mem_take_iff.mpr ⟨i, him, he⟩, helse⟩
  obtain ⟨rest, hkind⟩ : ∃ rest,
      (c.keywords.forFile file).classify (Text.trim b.opening) = .branch rest := by
    rcases Keywords.continues_eq_true_iff.mp (hblock.block.continues_of_getElem? hb) with h | h
    · exact h
    · exact absurd h (classify_ne_otherwise htrue)
  obtain ⟨after, hsplit⟩ := hblock.begins hb [] rfl
  have hclean := run_eq_ok_iff_clean.mp ⟨_, _, convert_eq_ok_iff.mp hconvert⟩
  refine hclean (outside ++ (linesOf (branches.take m) ++ b'.lines)) b.opening after ?_ _ _
    (.elseifAfterElse hkind (hblock.openAt_end hb') hseen)
  rw [← hsplit, take_succ_of_getElem? hb', linesOf_concat]
  simp

/-! ## §3 Branches that are left out -/

/-- Nothing of the branch with number `i` is put out. -/
def Silent (c : Conversion) (file : Option Text) (outside : List Text) (branches : List Branch)
    (i : Nat) : Prop :=
  ∃ before after output,
    run c.vars (c.keywords.forFile file) c.strip file 0 []
        (outside ++ linesOf (branches.take i)) = .ok (before, output) ∧
      run c.vars (c.keywords.forFile file) c.strip file 0 []
        (outside ++ linesOf (branches.take (i + 1))) = .ok (after, output)

theorem outputLine_strip_eq_none {k : Keywords} {stack : BlockStack} {line : Text}
    (h : k.classify (Text.trim line) = .code → stack.isActive = false) :
    outputLine k true stack line = none := by
  rw [outputLine_eq, keeps]
  by_cases hcode : k.classify (Text.trim line) = .code
  · simp [hcode, h hcode]
  · simp [hcode]

/-- A run that strips goes on over a directive, or over any line in a place that is not
active, without putting it out. -/
theorem exists_run_concat_of_dead (hstrip : c.strip = true)
    (hconvert : c.convert file lines = .ok out) {before output : List Text} {line : Text}
    {stack : BlockStack}
    (hbefore : run c.vars (c.keywords.forFile file) c.strip file 0 [] before =
      .ok (stack, output))
    (hdead : (c.keywords.forFile file).classify (Text.trim line) = .code →
      stack.isActive = false)
    (hbegins : before ++ [line] <+: lines) :
    ∃ after, run c.vars (c.keywords.forFile file) c.strip file 0 [] (before ++ [line]) =
      .ok (after, output) := by
  obtain ⟨after, more, hrun⟩ := exists_run_of_begins hbegins (convert_eq_ok_iff.mp hconvert)
  obtain ⟨stack', output', hbefore', -, rfl⟩ := run_concat_eq_ok_iff.mp hrun
  cases hbefore.symm.trans hbefore'
  rw [hrun, hstrip, outputLine_strip_eq_none hdead, Option.toList_none, List.append_nil]
  exact ⟨after, rfl⟩

/-- A run that strips puts out nothing of a branch that is not selected, as far as it has
read it. -/
theorem exists_run_of_not_selectedBranch (hstrip : c.strip = true)
    (hconvert : c.convert file lines = .ok out)
    (hblock : HoldsBlock (c.keywords.forFile file) lines outside branches) {i : Nat} {b : Branch}
    (hb : branches[i]? = some b) (hnot : ¬ SelectedBranch c file outside branches i)
    {stack : BlockStack} {output : List Text}
    (hbefore : run c.vars (c.keywords.forFile file) c.strip file 0 []
      (outside ++ linesOf (branches.take i)) = .ok (stack, output))
    {first second : List Text} (hbody : b.body = first ++ second) :
    ∃ after, run c.vars (c.keywords.forFile file) c.strip file 0 []
      (outside ++ (linesOf (branches.take i) ++ b.opening :: first)) = .ok (after, output) := by
  induction first using List.reverseRecOn generalizing second with
  | nil =>
    have hdirective : (c.keywords.forFile file).classify (Text.trim b.opening) ≠ .code :=
      hblock.block.classify_ne_code (List.mem_of_getElem? hb)
    have hbegins := hblock.begins hb [] hbody
    rw [← List.append_assoc] at hbegins ⊢
    exact exists_run_concat_of_dead hstrip hconvert hbefore
      (fun hcode => absurd hcode hdirective) hbegins
  | append_singleton first line ih =>
    have hbody' : b.body = first ++ line :: second := by simp [hbody]
    obtain ⟨mid, hmid⟩ := ih hbody'
    have hinactive : mid.isActive = false := by
      rw [← Bool.not_eq_true, isActive_iff hmid]
      intro hselected
      obtain ⟨inner, hopen⟩ := hblock.openAt hb first hbody'
      have hchosen : chosen c.vars (c.keywords.forFile file) (branches.take i) b = true :=
        hselected inner _ ⟨b.opening, first⟩ hopen
      exact hnot ((selectedBranch_iff hconvert hblock i).mpr ((chosen_eq_true_iff hb).mp hchosen))
    have hbegins := hblock.begins hb (first ++ [line]) hbody
    rw [← List.cons_append, ← List.append_assoc, ← List.append_assoc] at hbegins ⊢
    rw [List.append_assoc outside] at hbegins ⊢
    exact exists_run_concat_of_dead hstrip hconvert hmid (fun _ => hinactive) hbegins

/-- Of a branch that is not selected stripping leaves nothing. -/
theorem silent_of_not_selectedBranch (hstrip : c.strip = true)
    (hconvert : c.convert file lines = .ok out)
    (hblock : HoldsBlock (c.keywords.forFile file) lines outside branches) {i : Nat} {b : Branch}
    (hb : branches[i]? = some b) (hnot : ¬ SelectedBranch c file outside branches i) :
    Silent c file outside branches i := by
  have hbegins : outside ++ linesOf (branches.take i) <+: lines := by
    have hopening := hblock.begins hb [] rfl
    rw [← List.append_assoc] at hopening
    exact (List.prefix_append _ _).trans hopening
  obtain ⟨before, output, hbefore⟩ :=
    exists_run_of_begins hbegins (convert_eq_ok_iff.mp hconvert)
  obtain ⟨after, hafter⟩ := exists_run_of_not_selectedBranch hstrip hconvert hblock hb hnot
    hbefore (List.append_nil b.body).symm
  refine ⟨before, after, output, hbefore, ?_⟩
  rw [take_succ_of_getElem? hb, linesOf_concat]
  exact hafter

/-! ## §4 How many branches are selected -/

/-- Two branches of a block are selected only when these are `else` branches and no
condition of the block is true. -/
theorem atMostOneSelected_iff (hconvert : c.convert file lines = .ok out)
    (hblock : HoldsBlock (c.keywords.forFile file) lines outside branches) :
    AtMostOneSelected c file outside branches ↔
      (∃ i, TrueAt c.vars (c.keywords.forFile file) branches i) ∨
        ∀ i j, ElseAt (c.keywords.forFile file) branches i →
          ElseAt (c.keywords.forFile file) branches j → i = j := by
  have hselected := selectedBranch_iff hconvert hblock
  constructor
  · intro hone
    by_cases htrue : ∃ i, TrueAt c.vars (c.keywords.forFile file) branches i
    · exact .inl htrue
    · have hnone := not_exists.mp htrue
      refine .inr fun i j hi hj => hone i j ?_ ?_
      · exact (hselected i).mpr ⟨fun m _ => hnone m, .inl hi⟩
      · exact (hselected j).mpr ⟨fun m _ => hnone m, .inl hj⟩
  · intro h
    -- Of two selected branches the first is an `else` branch, and so nothing is true.
    have hlater {i j : Nat} (hi : SelectedBranch c file outside branches i)
        (hj : SelectedBranch c file outside branches j) (hij : i < j) : False := by
      obtain ⟨hbefore, hi⟩ := (hselected i).mp hi
      obtain ⟨hbefore', hj⟩ := (hselected j).mp hj
      have hielse := hi.resolve_right (hbefore' i hij)
      have hjelse := hj.resolve_right
        (not_trueAt_of_elseAt hconvert hblock hielse (Nat.le_of_lt hij))
      rcases h with ⟨m, hm⟩ | hone
      · rcases Nat.lt_or_ge m i with hmi | him
        · exact hbefore m hmi hm
        · exact not_trueAt_of_elseAt hconvert hblock hielse him hm
      · exact absurd (hone i j hielse hjelse) (Nat.ne_of_lt hij)
    intro i j hi hj
    rcases Nat.lt_trichotomy i j with hij | hij | hij
    · exact (hlater hi hj hij).elim
    · exact hij
    · exact (hlater hj hi hij).elim

/-- **At most one branch of a block is selected**, unless the block has several `else`
branches and no condition that is true.  All that stripping leaves of the block then comes
from one branch. -/
theorem convert_selects_one (hconvert : c.convert file lines = .ok out)
    (hblock : HoldsBlock (c.keywords.forFile file) lines outside branches) :
    (AtMostOneSelected c file outside branches ↔
      (∃ i, TrueAt c.vars (c.keywords.forFile file) branches i) ∨
        ∀ i j, ElseAt (c.keywords.forFile file) branches i →
          ElseAt (c.keywords.forFile file) branches j → i = j) ∧
    (c.strip = true → AtMostOneSelected c file outside branches →
      ∃ i, ∀ j < branches.length, j ≠ i → Silent c file outside branches j) := by
  refine ⟨atMostOneSelected_iff hconvert hblock, fun hstrip hone => ?_⟩
  have hsilent {j : Nat} (hj : j < branches.length)
      (hnot : ¬ SelectedBranch c file outside branches j) : Silent c file outside branches j :=
    silent_of_not_selectedBranch hstrip hconvert hblock (List.getElem?_eq_getElem hj) hnot
  by_cases hsome : ∃ i, SelectedBranch c file outside branches i
  · obtain ⟨i, hi⟩ := hsome
    exact ⟨i, fun j hj hne => hsilent hj fun hselected => hne (hone j i hselected hi)⟩
  · exact ⟨0, fun j hj _ => hsilent hj fun hselected => hsome ⟨j, hselected⟩⟩

end Selection

/-- The conversion under given variables that strips, with the standard tokens. -/
def stripping (vars : Variables) : Conversion where
  vars := vars
  keywords := Dictionary.empty
  strip := true

/-- The branches of a block that goes on with a second `else`. -/
def twoElses : List Branch :=
  [⟨Text.ofString "//#if a", [['x']]⟩, ⟨Text.ofString "//#else", [['y']]⟩,
    ⟨Text.ofString "//#else", [['z']]⟩]

/-- The lines of that block. -/
def twoElsesLines : List Text := linesOf twoElses ++ [Text.ofString "//#endif"]

theorem holdsBlock_twoElses : HoldsBlock Keywords.standard twoElsesLines [] twoElses where
  split := ⟨Text.ofString "//#endif", [], by decide, rfl⟩
  block := ⟨by decide, by decide⟩
  complete := by
    have hcode : ∀ b ∈ twoElses, ∀ line ∈ b.body,
        Keywords.standard.classify (Text.trim line) = .code := by decide
    exact fun b hb => complete_of_code (hcode b hb)

/-- Behind a true condition two `else` branches do no harm. -/
theorem convert_selects_one_twoElses :
    (stripping (Dictionary.ofList [(['a'], [])])).convert none twoElsesLines = .ok [['x']] ∧
      AtMostOneSelected (stripping (Dictionary.ofList [(['a'], [])])) none [] twoElses ∧
      ∃ i, ∀ j < 3, j ≠ i →
        Silent (stripping (Dictionary.ofList [(['a'], [])])) none [] twoElses j := by
  have hconvert : (stripping (Dictionary.ofList [(['a'], [])])).convert none twoElsesLines =
      .ok [['x']] := by decide +kernel
  obtain ⟨hiff, hsilent⟩ := convert_selects_one hconvert holdsBlock_twoElses
  have hone := hiff.mpr (.inl ⟨0, _, rfl, by decide +kernel⟩)
  exact ⟨hconvert, hone, hsilent rfl hone⟩

/-- Without a true condition both `else` branches are selected, and the lines of both come
out. -/
theorem not_atMostOneSelected_twoElses :
    (stripping Dictionary.empty).convert none twoElsesLines = .ok [['y'], ['z']] ∧
      HoldsBlock ((stripping Dictionary.empty).keywords.forFile none) twoElsesLines []
        twoElses ∧
      ¬ AtMostOneSelected (stripping Dictionary.empty) none [] twoElses := by
  refine ⟨by decide +kernel, holdsBlock_twoElses, fun hone => ?_⟩
  have hsecond : SelectedBranch (stripping Dictionary.empty) none [] twoElses 1 :=
    ⟨⟨Text.ofString "//#else", [['y']]⟩, ⟨true, true, false, 0⟩, [], [], rfl,
      by decide +kernel, rfl⟩
  have hthird : SelectedBranch (stripping Dictionary.empty) none [] twoElses 2 :=
    ⟨⟨Text.ofString "//#else", [['z']]⟩, ⟨true, true, false, 0⟩, [], [['y']], rfl,
      by decide +kernel, rfl⟩
  cases hone 1 2 hsecond hthird

end Conversion

end CommentSwitch
