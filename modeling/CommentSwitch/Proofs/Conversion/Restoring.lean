import CommentSwitch.Proofs.Conversion.Idempotence
import CommentSwitch.Proofs.Conversion.Stripping
import Mathlib.Data.List.Forall2

/-!
# Switching off and on again

A line of code that one conversion has switched off and the next one switches on again is
the line it was, up to its indentation: of the blank that it shares with the directive line
of its branch only the width is kept, and it comes back as ordinary spaces.

- `Conversion.forall₂_sameReading_of_run`: a converted file is read as the file it comes from
- `Conversion.run_stack_of_sameReading`: such files open and close the same blocks
- `Conversion.convert_off_on`: what becomes of a line that is switched on again
-/

namespace CommentSwitch

namespace Conversion

open Nesting

/-! ## §1 Files with the same reading -/

/-- No line of code has a tag. -/
def Untagged (k : Keywords) (lines : List Text) : Prop :=
  ∀ line ∈ lines, k.classify (Text.trim line) = .code →
    Text.startsWith k.evalToken (Text.trim line) = false

instance (k : Keywords) (lines : List Text) : Decidable (Untagged k lines) :=
  inferInstanceAs (Decidable (∀ line ∈ lines, _ → _))

theorem Untagged.of_cons {k : Keywords} {line : Text} {rest : List Text}
    (h : Untagged k (line :: rest)) : Untagged k rest :=
  fun l hl => h l (List.mem_cons_of_mem _ hl)

section Run

variable {vars : Variables} {k : Keywords} {strip : Bool} {file : Option Text}

theorem forall₂_sameReading_of_run (hvalid : k.validate = .ok ()) (hcompact : k.Compact)
    {count : Nat} {stack last : BlockStack} {lines out : List Text} (hlines : Untagged k lines)
    (h : run vars k false file count stack lines = .ok (last, out)) :
    List.Forall₂ (SameReading k) lines out := by
  induction lines generalizing count stack out with
  | nil =>
    cases h
    exact .nil
  | cons line rest ih =>
    obtain ⟨after, output, -, hrest, rfl⟩ := run_plain_cons_iff.mp h
    have hplain := hlines line List.mem_cons_self
    -- Without a tag there is nothing behind a tag.
    have hclear : stack.isActive = true → NoTokenBehindTag k line := by
      intro _ hcode hstarts
      rw [hplain hcode] at hstarts
      cases hstarts
    exact .cons (sameReading_keptLine hvalid hcompact hclear) (ih hlines.of_cons hrest)

/-- Files with the same reading open and close the same blocks. -/
theorem run_stack_of_sameReading {lines lines' : List Text}
    (h : List.Forall₂ (SameReading k) lines lines') {count : Nat} {stack last : BlockStack}
    {out' : List Text} (hrun : run vars k strip file count stack lines' = .ok (last, out')) :
    ∃ out, run vars k strip file count stack lines = .ok (last, out) := by
  induction h generalizing count stack out' with
  | nil =>
    cases hrun
    exact ⟨[], rfl⟩
  | cons hline hrest ih =>
    obtain ⟨after, output', hafter, hrun', rfl⟩ := run_cons_eq_ok_iff.mp hrun
    obtain ⟨output, hout⟩ := ih hrun'
    rw [hline.advance_eq] at hafter
    exact ⟨_, run_cons_eq_ok_iff.mpr ⟨after, output, hafter, hout, rfl⟩⟩

/-- The line behind the lines `before`, in a run that leaves no line out. -/
theorem exists_keptLine_of_run {before after out : List Text} {line : Text} {last : BlockStack}
    (h : run vars k false file 0 [] (before ++ line :: after) = .ok (last, out)) :
    ∃ mid output more, run vars k false file 0 [] before = .ok (mid, output) ∧
      output.length = before.length ∧ out = output ++ keptLine k mid line :: more := by
  obtain ⟨mid, output, rest, hbefore, hrest, rfl⟩ := run_append_eq_ok_iff.mp h
  obtain ⟨next, more, -, -, rfl⟩ := run_plain_cons_iff.mp hrest
  exact ⟨mid, output, more, hbefore, (run_strip_of_run_plain hbefore).1, rfl⟩

/-- A place that is not active stands in a branch, which tells the indentation of its tags. -/
theorem exists_branch_of_inactive {before out : List Text} {stack : BlockStack}
    (h : run vars k strip file 0 [] before = .ok (stack, out))
    (hinactive : stack.isActive = false) :
    ∃ earlier current, OpenAt k before 0 earlier current ∧
      stack.indent = Text.indentation current.opening := by
  cases stack with
  | nil => cases hinactive
  | cons block outer =>
    obtain ⟨earlier, current, hopen, rfl⟩ := (tracks_of_run h 0 block).mp rfl
    exact ⟨earlier, current, hopen, rfl⟩

end Run

/-! ## §2 Lines of a branch -/

/-- Every line of code that is not blank begins with the leading blank of the line that
opened its branch. -/
def Consistent (k : Keywords) (lines : List Text) : Prop :=
  ∀ before line after, lines = before ++ line :: after →
    k.classify (Text.trim line) = .code → Text.trim line ≠ [] →
      ∀ earlier current, OpenAt k before 0 earlier current →
        Text.leadingBlank current.opening <+: Text.leadingBlank line

/-- The line with spaces in place of its first `d` characters. -/
def respaced (d : Nat) (line : Text) : Text := Text.spaces d ++ line.drop d

theorem respaced_eq_self_iff {d : Nat} {line : Text} (hd : d ≤ line.length) :
    respaced d line = line ↔ ∀ c ∈ line.take d, c = ' ' := by
  have hlength : (line.take d).length = d := List.length_take_of_le hd
  have hreplicate : line.take d = Text.spaces d ↔ ∀ c ∈ line.take d, c = ' ' := by
    rw [Text.spaces, List.eq_replicate_iff]
    simp [hlength]
  rw [← hreplicate, respaced]
  conv_lhs => rhs; rw [← List.take_append_drop d line]
  rw [List.append_left_inj, eq_comm]

section Block

variable {k : Keywords} {opening closing : Text}

theorem opening_eq_of_openAt {body : List Text} {earlier : List Branch} {current : Branch}
    (hopens : k.opens opening = true)
    (hbody : ∀ line ∈ body, k.classify (Text.trim line) = .code)
    (h : OpenAt k (opening :: body) 0 earlier current) : current.opening = opening := by
  induction body using List.reverseRecOn generalizing current earlier with
  | nil =>
    have hfirst : OpenAt k ([] ++ [opening]) 0 earlier current := h
    obtain ⟨-, rfl⟩ := (openAt_zero_concat_of_opens hopens).mp hfirst
    rfl
  | append_singleton body line ih =>
    rw [← List.cons_append] at h
    obtain ⟨b, hb, rfl⟩ := (openAt_concat_of_code (hbody line (by simp))).mp h
    rw [Branch.opening_grow]
    exact ih (fun l hl => hbody l (by simp [hl])) hb

/-- A block of a single branch is consistent if each line begins as the first one does. -/
theorem consistent_of_branch (body : List Text) (hopens : k.opens opening = true) (hcloses : k.closes closing = true)
    (hbody : ∀ line ∈ body, k.classify (Text.trim line) = .code ∧
      Text.leadingBlank opening <+: Text.leadingBlank line) :
    Consistent k (opening :: (body ++ [closing])) := by
  intro before line after hsplit hcode htext earlier current hopen
  cases before with
  | nil => exact absurd hopen not_openAt_nil
  | cons first before =>
    rw [List.cons_append] at hsplit
    obtain ⟨rfl, hrest⟩ := List.cons_eq_cons.mp hsplit
    rcases List.eq_nil_or_concat after with rfl | ⟨after, last, rfl⟩
    · -- The line that closes the block is no code.
      obtain ⟨-, hline⟩ := List.append_inj' hrest rfl
      cases hline
      simp [Keywords.closes, hcode] at hcloses
    · rw [List.concat_eq_append, ← List.cons_append, ← List.append_assoc] at hrest
      obtain ⟨rfl, -⟩ := List.append_inj' hrest rfl
      have hopening := opening_eq_of_openAt hopens
        (fun l hl => (hbody l (by simp [hl])).1) hopen
      rw [hopening]
      exact (hbody line (by simp)).2

end Block

section Line

variable {k : Keywords} {line : Text}

theorem take_indentation_of_prefix {opening : Text}
    (hbegins : Text.leadingBlank opening <+: Text.leadingBlank line) :
    line.take (Text.indentation opening) = Text.leadingBlank opening := by
  have hd : Text.indentation opening ≤ Text.indentation line := hbegins.length_le
  rw [Text.take_eq_take_leadingBlank hd]
  exact (List.prefix_iff_eq_take.mp hbegins).symm

/-- A line that is switched off and then on keeps only the width of its first blank. -/
theorem restore_comment (hvalid : k.validate = .ok ()) (hcompact : k.Compact)
    (htext : Text.trim line ≠ []) (hplain : Text.startsWith k.evalToken (Text.trim line) = false)
    {d : Nat} (hd : d ≤ Text.indentation line) :
    Tag.restore k.evalToken (Tag.comment k.evalToken d line) = respaced d line := by
  rw [Tag.comment_of_aligned htext hplain hd,
    Tag.restore_tagged (Keywords.proper_evalToken hvalid hcompact)]
  rfl

end Line

/-! ## §3 Two conversions -/

/-- A line that two conversions keep one after the other.  The second one meets it in the
place that it has in the first file. -/
theorem getElem?_of_two_runs {off on : Variables} {k : Keywords} {file : Option Text}
    (hvalid : k.validate = .ok ()) (hcompact : k.Compact) {before after mid out : List Text}
    {line : Text} {last last' : BlockStack} (huntagged : Untagged k (before ++ line :: after))
    (hoff : run off k false file 0 [] (before ++ line :: after) = .ok (last, mid))
    (hon : run on k false file 0 [] mid = .ok (last', out)) :
    ∃ stack stack' output output', run off k false file 0 [] before = .ok (stack, output) ∧
      run on k false file 0 [] before = .ok (stack', output') ∧
      out[before.length]? = some (keptLine k stack' (keptLine k stack line)) := by
  obtain ⟨stack, output, more, hrun, hlength, rfl⟩ := exists_keptLine_of_run hoff
  obtain ⟨stack', output', more', hrun', hlength', rfl⟩ := exists_keptLine_of_run hon
  have hbefore : Untagged k before := fun l hl => huntagged l (by simp [hl])
  have hsame := forall₂_sameReading_of_run hvalid hcompact hbefore hrun
  obtain ⟨_, hrunOn⟩ := run_stack_of_sameReading hsame hrun'
  refine ⟨stack, stack', output, _, hrun, hrunOn, ?_⟩
  rw [List.getElem?_append_right (by omega)]
  simp [hlength', hlength]

/-- **Switching a line off and on again restores it, up to its indentation.**  A line that
stays on is left as it is.  One that has been off comes back with ordinary spaces for the
blank that it shares with the directive line of its branch, so as it was exactly when this
blank is made of ordinary spaces. -/
theorem convert_off_on {keywords : KeywordRegistry} {file : Option Text}
    (hvalid : (keywords.forFile file).validate = .ok ())
    (hcompact : (keywords.forFile file).Compact) {lines mid out : List Text}
    (huntagged : Untagged (keywords.forFile file) lines)
    (hconsistent : Consistent (keywords.forFile file) lines) {off on : Variables}
    (hoff : (plain keywords off).convert file lines = .ok mid)
    (hon : (plain keywords on).convert file mid = .ok out)
    {before after : List Text} {line : Text} (hsplit : lines = before ++ line :: after)
    (hcode : (keywords.forFile file).classify (Text.trim line) = .code)
    (htext : Text.trim line ≠ [])
    (hselected : SelectedPlace on (keywords.forFile file) before) :
    (SelectedPlace off (keywords.forFile file) before → out[before.length]? = some line) ∧
    (¬ SelectedPlace off (keywords.forFile file) before →
      ∃ earlier current, OpenAt (keywords.forFile file) before 0 earlier current ∧
        out[before.length]? = some (respaced (Text.indentation current.opening) line) ∧
        (out[before.length]? = some line ↔
          ∀ c ∈ Text.leadingBlank current.opening, c = ' ')) := by
  subst hsplit
  have hplain := huntagged line (by simp) hcode
  obtain ⟨stack, stack', output, output', hrun, hrun', hget⟩ := getElem?_of_two_runs
    hvalid hcompact huntagged (convert_eq_ok_iff.mp hoff) (convert_eq_ok_iff.mp hon)
  have hactive' : stack'.isActive = true := (isActive_iff hrun').mpr hselected
  rw [hget]
  constructor
  · intro hselectedOff
    have hactive : stack.isActive = true := (isActive_iff hrun).mpr hselectedOff
    rw [keptLine_of_active hcode hactive, Tag.restore_of_untagged hplain,
      keptLine_of_active hcode hactive', Tag.restore_of_untagged hplain]
  · intro hunselected
    have hinactive : stack.isActive = false := by
      rw [← Bool.not_eq_true, isActive_iff hrun]
      exact hunselected
    obtain ⟨earlier, current, hopen, hindent⟩ := exists_branch_of_inactive hrun hinactive
    have hbegins := hconsistent before line after rfl hcode htext earlier current hopen
    have hd : Text.indentation current.opening ≤ Text.indentation line := hbegins.length_le
    have hdepth : Text.indentation current.opening ≤ line.length :=
      Nat.le_trans hd (List.takeWhile_prefix Text.isBlank).length_le
    rw [keptLine_of_inactive hcode hinactive, hindent,
      keptLine_of_active (classify_comment hvalid hcompact hcode _) hactive',
      restore_comment hvalid hcompact htext hplain hd]
    refine ⟨earlier, current, hopen, rfl, ?_⟩
    rw [Option.some_inj, respaced_eq_self_iff hdepth, take_indentation_of_prefix hbegins]

/-- A block that is indented by ordinary spaces, tabs standing behind them. -/
def spacedBlock : List Text :=
  [Text.ofString "  //#if a", Text.ofString "  \tone", Text.ofString "   two",
    Text.ofString "  //#endif"]

/-- This block when it is off. -/
def spacedBlockOff : List Text :=
  [Text.ofString "  //#if a", Text.ofString "  //$$ \tone", Text.ofString "  //$$  two",
    Text.ofString "  //#endif"]

/-- The variables under which these blocks are on. -/
def switchedOn : Variables := Dictionary.ofList [(['a'], [])]

theorem convert_off_on_spacedBlock :
    (plain Dictionary.empty Dictionary.empty).convert none spacedBlock = .ok spacedBlockOff ∧
      (plain Dictionary.empty switchedOn).convert none spacedBlockOff = .ok spacedBlock ∧
      ∃ earlier current,
        OpenAt Keywords.standard [Text.ofString "  //#if a"] 0 earlier current ∧
          spacedBlock[1]? =
            some (respaced (Text.indentation current.opening) (Text.ofString "  \tone")) ∧
          (spacedBlock[1]? = some (Text.ofString "  \tone") ↔
            ∀ c ∈ Text.leadingBlank current.opening, c = ' ') := by
  have hoff : (plain Dictionary.empty Dictionary.empty).convert none spacedBlock =
      .ok spacedBlockOff := by decide +kernel
  have hon : (plain Dictionary.empty switchedOn).convert none spacedBlockOff =
      .ok spacedBlock := by decide +kernel
  have hconsistent : Consistent Keywords.standard spacedBlock :=
    consistent_of_branch [_, _] (by decide) (by decide) (by decide +kernel)
  have hsplit : spacedBlock = [Text.ofString "  //#if a"] ++
      Text.ofString "  \tone" :: [Text.ofString "   two", Text.ofString "  //#endif"] := rfl
  have hplaceOn : run switchedOn Keywords.standard false none 0 []
      [Text.ofString "  //#if a"] = .ok ([.opened true 2], [Text.ofString "  //#if a"]) := by
    decide +kernel
  have hplaceOff : run Dictionary.empty Keywords.standard false none 0 []
      [Text.ofString "  //#if a"] = .ok ([.opened false 2], [Text.ofString "  //#if a"]) := by
    decide +kernel
  have hvalid : (KeywordRegistry.forFile Dictionary.empty none).validate = .ok () :=
    Keywords.validate_standard
  refine ⟨hoff, hon, ?_⟩
  refine (convert_off_on hvalid Keywords.compact_standard (by decide +kernel)
    hconsistent hoff hon hsplit (by decide +kernel) (by decide +kernel)
    ((isActive_iff hplaceOn).mp rfl)).2 ?_
  intro hselected
  cases (isActive_iff hplaceOff).mpr hselected

/-- A block that is indented by a tab. -/
def tabbedBlock : List Text :=
  [Text.ofString "\t//#if a", Text.ofString "\tone", Text.ofString "\t//#endif"]

/-- Its lines after they have been switched off and on again. -/
def tabbedBlockSwitched : List Text :=
  [Text.ofString "\t//#if a", Text.ofString " one", Text.ofString "\t//#endif"]

/-- A tab does not come back: the line returns with a space in its place. -/
theorem not_restored_tabbedBlock :
    Keywords.standard.validate = .ok () ∧ Keywords.standard.Compact ∧
      Untagged Keywords.standard tabbedBlock ∧ Consistent Keywords.standard tabbedBlock ∧
      SelectedPlace switchedOn Keywords.standard [Text.ofString "\t//#if a"] ∧
      passes Dictionary.empty none tabbedBlock [Dictionary.empty, switchedOn] =
        .ok tabbedBlockSwitched ∧
      tabbedBlockSwitched[1]? ≠ tabbedBlock[1]? := by
  have hplace : run switchedOn Keywords.standard false none 0 []
      [Text.ofString "\t//#if a"] = .ok ([.opened true 1], [Text.ofString "\t//#if a"]) := by
    decide +kernel
  refine ⟨Keywords.validate_standard, Keywords.compact_standard, by decide +kernel, ?_,
    (isActive_iff hplace).mp rfl, by decide +kernel, by decide +kernel⟩
  exact consistent_of_branch [_] (by decide) (by decide) (by decide +kernel)

end Conversion

end CommentSwitch
