import CommentSwitch.Proofs.Condition.Place
import CommentSwitch.Proofs.Conversion.Passes

/-!
# Blocks

The lines of a file form a tree: lines of code, and blocks whose branches hold such
lines and further blocks.  A file can be converted along this tree, where a branch
hands down to what is inside whether it is selected and how deep it is indented.  The
conversion line by line, with its stack of open blocks, does the same.

- `Outline.render`: the conversion along the tree
- `Outline.run_lines`: reading an outline leaves the open blocks as they were
- `Conversion.convert_outline`: both conversions agree
-/

namespace CommentSwitch

open Conversion
open Keywords (Directive)

/-! ## §1 Outlines -/

mutual

/-- A file, or the inside of a branch, cut into lines of code and blocks. -/
inductive Outline where
  | nil
  | code (line : Text) (rest : Outline)
  /-- A block with its first branch, its `elseif` branches, its `else` branches and its
  last line, and what follows the block. -/
  | block (opening : Text) (body : Outline) (branches fallbacks : Branches) (closing : Text)
      (rest : Outline)

/-- Branches of one block: each with the line that opens it and what is inside. -/
inductive Branches where
  | nil
  | cons (opening : Text) (body : Outline) (rest : Branches)

end

mutual

/-- The lines of an outline. -/
def Outline.lines : Outline → List Text
  | .nil => []
  | .code line rest => line :: rest.lines
  | .block opening body branches fallbacks closing rest =>
    opening :: (body.lines ++ (branches.lines ++ (fallbacks.lines ++ closing :: rest.lines)))

/-- The lines of some branches. -/
def Branches.lines : Branches → List Text
  | .nil => []
  | .cons opening body rest => opening :: (body.lines ++ rest.lines)

end

/-- The lines that open the branches. -/
def Branches.openings : Branches → List Text
  | .nil => []
  | .cons opening _ rest => opening :: rest.openings

mutual

/-- Whether each line is read as what it stands for. -/
def Outline.fits (k : Keywords) : Outline → Bool
  | .nil => true
  | .code line rest => k.classify (Text.trim line) == .code && rest.fits k
  | .block opening body branches fallbacks closing rest =>
    (k.classify (Text.trim opening) matches .opening _) && body.fits k
      && branches.fits k (· matches .branch _) && fallbacks.fits k (· == .otherwise)
      && k.classify (Text.trim closing) == .closing && rest.fits k

/-- Whether each line is read as what it stands for, the branches being of one kind. -/
def Branches.fits (k : Keywords) (kind : Directive → Bool) : Branches → Bool
  | .nil => true
  | .cons opening body rest =>
    kind (k.classify (Text.trim opening)) && body.fits k && rest.fits k kind

end

/-! ## §2 Conditions of a block -/

section Conditions

variable (vars : Variables) (k : Keywords)

/-- The value of the condition on an `if` or `elseif` line, if it is written as it should
be and has one. -/
def lineValue? (line : Text) : Option Bool :=
  match k.classify (Text.trim line) with
  | .opening rest => (conditionValue vars .unknown rest).toOption
  | .branch rest => (conditionValue vars .unknown rest).toOption
  | _ => none

/-- Whether the condition on an `if` or `elseif` line is true. -/
def lineHolds (line : Text) : Bool := lineValue? vars k line == some true

/-- The number of the first line whose condition is true. -/
def firstTrue? (openings : List Text) : Option Nat := openings.findIdx? (lineHolds vars k)

/-- The lines up to and including the first whose condition is true. -/
def upToFirstTrue : List Text → List Text
  | [] => []
  | line :: rest => if lineHolds vars k line then [line] else line :: upToFirstTrue rest

mutual

/-- Whether each condition has a value, apart from those behind the first of a block that
is true. -/
def Outline.decided : Outline → Bool
  | .nil => true
  | .code _ rest => rest.decided
  | .block opening body branches fallbacks _ rest =>
    (upToFirstTrue vars k (opening :: branches.openings)).all
        (fun line => (lineValue? vars k line).isSome)
      && body.decided && branches.decided && fallbacks.decided && rest.decided

/-- Whether the conditions inside of branches have values, in the same sense. -/
def Branches.decided : Branches → Bool
  | .nil => true
  | .cons _ body rest => body.decided && rest.decided

end

end Conditions

/-! ## §3 Conversion along the tree -/

section Render

variable (vars : Variables) (k : Keywords) (strip : Bool)

/-- What becomes of a directive line. -/
def renderDirective (line : Text) : List Text := if strip then [] else [line]

/-- What becomes of a line of code in a branch with the given indentation. -/
def renderCode (active : Bool) (indent : Nat) (line : Text) : List Text :=
  if active then [Tag.restore k.evalToken line]
  else if strip then []
  else [Tag.comment k.evalToken indent line]

mutual

/-- What becomes of an outline in a branch with the given indentation. -/
def Outline.render (active : Bool) (indent : Nat) : Outline → List Text
  | .nil => []
  | .code line rest => renderCode k strip active indent line ++ rest.render active indent
  | .block opening body branches fallbacks closing rest =>
    -- The `if` branch has the number zero.
    let chosen := firstTrue? vars k (opening :: branches.openings)
    renderDirective strip opening
      ++ (body.render (active && chosen == some 0) (Text.indentation opening)
      ++ (branches.render active (fun i => chosen == some i) 1
      ++ (fallbacks.render active (fun _ => chosen == none) 0
      ++ (renderDirective strip closing ++ rest.render active indent))))

/-- What becomes of the branches with the numbers from `i` on. -/
def Branches.render (active : Bool) (selected : Nat → Bool) (i : Nat) : Branches → List Text
  | .nil => []
  | .cons opening body rest =>
    renderDirective strip opening
      ++ (body.render (active && selected i) (Text.indentation opening)
      ++ rest.render active selected (i + 1))

end

end Render

/-! ## §4 Conditions and the state of a block -/

section Conditions

variable {vars : Variables} {k : Keywords}

/-- The condition behind a line has a value at every place. -/
theorem exists_conditionValue {line rest : Text}
    (hkind : k.classify (Text.trim line) = .opening rest ∨
      k.classify (Text.trim line) = .branch rest)
    (hvalue : (lineValue? vars k line).isSome = true) (place : Place) :
    conditionValue vars place rest = .ok (lineHolds vars k line) := by
  have hline : lineValue? vars k line = (conditionValue vars .unknown rest).toOption := by
    rcases hkind with hkind | hkind <;> simp [lineValue?, hkind]
  rw [hline] at hvalue
  cases hresult : conditionValue vars .unknown rest with
  | error d => simp [hresult, Except.toOption] at hvalue
  | ok holds =>
    rw [conditionValue_eq_ok hresult place, lineHolds, hline, hresult]
    cases holds <;> rfl

/-- As long as no condition was true, the next one counts. -/
theorem mem_upToFirstTrue (before after : List Text) (line : Text)
    (hbefore : before.any (lineHolds vars k) = false) :
    line ∈ upToFirstTrue vars k (before ++ line :: after) := by
  induction before with
  | nil =>
    rw [List.nil_append, upToFirstTrue]
    split <;> simp
  | cons first before ih =>
    rw [List.any_cons, Bool.or_eq_false_iff] at hbefore
    rw [List.cons_append, upToFirstTrue, if_neg (by simp [hbefore.1])]
    exact List.mem_cons_of_mem _ (ih hbefore.2)

/-- A branch has the first true condition when its own is true and none before it was. -/
theorem firstTrue?_eq_length (before after : List Text) (line : Text) :
    (firstTrue? vars k (before ++ line :: after) == some before.length) =
      (!before.any (lineHolds vars k) && lineHolds vars k line) := by
  unfold firstTrue?
  induction before with
  | nil =>
    rw [List.nil_append, List.findIdx?_cons]
    cases lineHolds vars k line with
    | true => rfl
    | false => cases after.findIdx? (lineHolds vars k) <;> rfl
  | cons first before ih =>
    rw [List.cons_append, List.findIdx?_cons, List.any_cons, List.length_cons]
    cases lineHolds vars k first with
    | true => rfl
    | false =>
      rw [Bool.false_or, ← ih]
      cases (before ++ line :: after).findIdx? (lineHolds vars k) with
      | none => rfl
      | some i => simp

/-- No branch has the first true condition when none is true. -/
theorem firstTrue?_eq_none (openings : List Text) :
    (firstTrue? vars k openings == none) = !openings.any (lineHolds vars k) := by
  unfold firstTrue?
  induction openings with
  | nil => rfl
  | cons line rest ih =>
    rw [List.findIdx?_cons, List.any_cons]
    cases lineHolds vars k line with
    | true => rfl
    | false =>
      rw [Bool.false_or, ← ih]
      cases rest.findIdx? (lineHolds vars k) <;> rfl

/-- An `elseif` line selects its branch when its condition is the first true one, and the
block remembers whether one was true. -/
theorem advance_branch {before : List Text} {line rest : Text} {block : OpenBlock}
    {outer : BlockStack} (hkind : k.classify (Text.trim line) = .branch rest)
    (hvalue : before.any (lineHolds vars k) = false → (lineValue? vars k line).isSome = true)
    (helse : block.elseSeen = false) (hever : block.everTrue = before.any (lineHolds vars k))
    (place : Place) (indent : Nat) :
    advance vars place indent (block :: outer) (.branch rest) =
      .ok (⟨!before.any (lineHolds vars k) && lineHolds vars k line, false,
        (before ++ [line]).any (lineHolds vars k), indent⟩ :: outer) := by
  simp only [advance, enterBranch, helse, hever]
  cases hany : before.any (lineHolds vars k) with
  | true => simp [OpenBlock.skipped, hany, helse, hever]
  | false =>
    rw [exists_conditionValue (.inr hkind) (hvalue hany) place]
    simp [OpenBlock.opened, hany, bind, Except.bind, pure, Except.pure]

end Conditions

/-! ## §5 Both conversions agree -/

section Run

variable {vars : Variables} {k : Keywords} {strip : Bool} {file : Option Text}

theorem toList_outputLine_of_directive {stack : BlockStack} {line : Text}
    (hdirective : k.classify (Text.trim line) ≠ .code) :
    (outputLine k strip stack line).toList = renderDirective strip line := by
  rw [outputLine_eq, keeps, decide_eq_false hdirective, keptLine_of_directive hdirective]
  cases strip <;> rfl

theorem toList_outputLine_of_code {stack : BlockStack} {line : Text}
    (hcode : k.classify (Text.trim line) = .code) :
    (outputLine k strip stack line).toList =
      renderCode k strip stack.isActive stack.indent line := by
  rw [outputLine_eq, keeps, hcode, renderCode]
  cases hactive : stack.isActive with
  | true =>
    rw [keptLine_of_active hcode hactive]
    cases strip <;> rfl
  | false =>
    rw [keptLine_of_inactive hcode hactive]
    cases strip <;> rfl

/-- A directive line and the run behind it make one run. -/
theorem run_directive {count : Nat} {stack after last : BlockStack} {line : Text}
    {rest output : List Text} (hdirective : k.classify (Text.trim line) ≠ .code)
    (hafter : advance vars ⟨some (count + 1), file⟩ (Text.indentation line) stack
      (k.classify (Text.trim line)) = .ok after)
    (hrest : run vars k strip file (count + 1) after rest = .ok (last, output)) :
    run vars k strip file count stack (line :: rest) =
      .ok (last, renderDirective strip line ++ output) :=
  run_cons_eq_ok_iff.mpr
    ⟨after, output, hafter, hrest, by rw [toList_outputLine_of_directive hdirective]⟩

theorem exists_opening {d : Directive} (h : (d matches .opening _) = true) :
    ∃ rest, d = .opening rest := by
  cases d <;> simp at h ⊢

theorem exists_branch {d : Directive} (h : (d matches .branch _) = true) :
    ∃ rest, d = .branch rest := by
  cases d <;> simp at h ⊢

mutual

/-- Reading an outline puts out what its conversion along the tree does, and leaves the
open blocks as they were. -/
theorem Outline.run_lines : ∀ outline : Outline, outline.fits k = true →
    outline.decided vars k = true → ∀ (count : Nat) (stack : BlockStack),
      run vars k strip file count stack outline.lines =
        .ok (stack, outline.render vars k strip stack.isActive stack.indent)
  | .nil, _, _, _, _ => rfl
  | .code line rest, hfits, hdecided, count, stack => by
    simp only [Outline.fits, Bool.and_eq_true, beq_iff_eq] at hfits
    obtain ⟨hcode, hrest⟩ := hfits
    have hrun := rest.run_lines hrest hdecided (count + 1) stack
    refine run_cons_eq_ok_iff.mpr ⟨stack, _, ?_, hrun, ?_⟩
    · rw [hcode]
      rfl
    · rw [toList_outputLine_of_code hcode, Outline.render]
  | .block opening body branches fallbacks closing rest, hfits, hdecided, count, stack => by
    simp only [Outline.fits, Bool.and_eq_true, beq_iff_eq] at hfits
    obtain ⟨⟨⟨⟨⟨hkind, hbody⟩, hbranches⟩, hfallbacks⟩, hclosing⟩, hrest⟩ := hfits
    simp only [Outline.decided, Bool.and_eq_true] at hdecided
    obtain ⟨⟨⟨⟨hvalues, hbody'⟩, hbranches'⟩, hfallbacks'⟩, hrest'⟩ := hdecided
    obtain ⟨condition, hopening⟩ := exists_opening hkind
    have hfirst := List.all_eq_true.mp hvalues opening
      (mem_upToFirstTrue [] branches.openings opening rfl)
    have hafter (place : Place) :
        advance vars place (Text.indentation opening) stack (k.classify (Text.trim opening)) =
          .ok (.opened (lineHolds vars k opening) (Text.indentation opening) :: stack) := by
      rw [hopening, advance, exists_conditionValue (.inl hopening) hfirst place]
      rfl
    -- The block after its `if` line, after its `elseif` branches and after its `else` branches.
    obtain ⟨block, hever, hrunBranches⟩ := branches.run_conditional
      hbranches hbranches' [opening] hvalues
      (.opened (lineHolds vars k opening) (Text.indentation opening)) stack rfl
      (by simp [OpenBlock.opened])
    obtain ⟨last, hrunFallbacks⟩ := fallbacks.run_fallback hfallbacks hfallbacks' block stack 0
    have hleave (place : Place) :
        advance vars place (Text.indentation closing) (last :: stack)
          (k.classify (Text.trim closing)) = .ok stack := by
      rw [hclosing]
      rfl
    have hrun := run_directive (by rw [hopening]; simp) (hafter _)
      (run_append_of_ok (body.run_lines hbody hbody' (count + 1) _)
        (run_append_of_ok (hrunBranches _)
          (run_append_of_ok (hrunFallbacks _)
            (run_directive (by rw [hclosing]; simp) (hleave _)
              (rest.run_lines hrest hrest' _ stack)))))
    -- What the stack says about each branch is what the first true condition says.
    have hchosen : (firstTrue? vars k (opening :: branches.openings) == some 0) =
        lineHolds vars k opening := firstTrue?_eq_length [] branches.openings opening
    have hnone : (firstTrue? vars k (opening :: branches.openings) == none) =
        !block.everTrue := by rw [firstTrue?_eq_none, hever]; rfl
    rw [Outline.lines, hrun, BlockStack.isActive_cons, Bool.and_comm]
    simp only [Outline.render, hchosen, hnone]
    rfl

/-- Reading `elseif` branches, the branches opened by `before` being read already. -/
theorem Branches.run_conditional : ∀ branches : Branches,
    branches.fits k (· matches .branch _) = true → branches.decided vars k = true →
      ∀ before : List Text,
        (upToFirstTrue vars k (before ++ branches.openings)).all
          (fun line => (lineValue? vars k line).isSome) = true →
        ∀ (block : OpenBlock) (outer : BlockStack), block.elseSeen = false →
          block.everTrue = before.any (lineHolds vars k) →
          ∃ block', block'.everTrue = (before ++ branches.openings).any (lineHolds vars k) ∧
            ∀ count, run vars k strip file count (block :: outer) branches.lines =
              .ok (block' :: outer, branches.render vars k strip outer.isActive
                (fun i => firstTrue? vars k (before ++ branches.openings) == some i)
                before.length)
  | .nil, _, _, before, _, block, outer, _, hever =>
    ⟨block, by rw [hever, Branches.openings, List.append_nil], fun _ => rfl⟩
  | .cons opening body rest, hfits, hdecided, before, hvalues, block, outer, helse, hever => by
    simp only [Branches.fits, Bool.and_eq_true] at hfits
    obtain ⟨⟨hkind, hbody⟩, hrest⟩ := hfits
    simp only [Branches.decided, Bool.and_eq_true] at hdecided
    obtain ⟨hbody', hrest'⟩ := hdecided
    obtain ⟨condition, hopening⟩ := exists_branch hkind
    have hvalue (hbefore : before.any (lineHolds vars k) = false) :
        (lineValue? vars k opening).isSome = true :=
      List.all_eq_true.mp hvalues opening (mem_upToFirstTrue before rest.openings opening hbefore)
    -- For the branches after it, this branch has been read.
    have hopenings : before ++ Branches.openings (.cons opening body rest) =
        before ++ [opening] ++ rest.openings := by simp [Branches.openings]
    rw [hopenings] at hvalues ⊢
    obtain ⟨last, hlast, hrunRest⟩ := rest.run_conditional
      hrest hrest' (before ++ [opening]) hvalues
      ⟨!before.any (lineHolds vars k) && lineHolds vars k opening, false,
        (before ++ [opening]).any (lineHolds vars k), Text.indentation opening⟩ outer rfl rfl
    refine ⟨last, hlast, fun count => ?_⟩
    have hrun := run_directive (by rw [hopening]; simp)
      (by rw [hopening]; exact advance_branch hopening hvalue helse hever _ _)
      (run_append_of_ok (body.run_lines hbody hbody' (count + 1) _) (hrunRest _))
    have hchosen : (firstTrue? vars k (before ++ [opening] ++ rest.openings) ==
        some before.length) = (!before.any (lineHolds vars k) && lineHolds vars k opening) := by
      rw [List.append_assoc, List.singleton_append, firstTrue?_eq_length]
    rw [Branches.lines, hrun, Branches.render, hchosen, BlockStack.isActive_cons, Bool.and_comm,
      List.length_append]
    rfl

/-- Reading `else` branches. -/
theorem Branches.run_fallback : ∀ branches : Branches,
    branches.fits k (· == .otherwise) = true → branches.decided vars k = true →
      ∀ (block : OpenBlock) (outer : BlockStack) (i : Nat),
        ∃ block', ∀ count, run vars k strip file count (block :: outer) branches.lines =
          .ok (block' :: outer, branches.render vars k strip outer.isActive
            (fun _ => !block.everTrue) i)
  | .nil, _, _, block, outer, _ => ⟨block, fun _ => rfl⟩
  | .cons opening body rest, hfits, hdecided, block, outer, i => by
    simp only [Branches.fits, Bool.and_eq_true, beq_iff_eq] at hfits
    obtain ⟨⟨hkind, hbody⟩, hrest⟩ := hfits
    simp only [Branches.decided, Bool.and_eq_true] at hdecided
    obtain ⟨hbody', hrest'⟩ := hdecided
    have hafter (place : Place) :
        advance vars place (Text.indentation opening) (block :: outer)
          (k.classify (Text.trim opening)) =
          .ok (block.otherwise (Text.indentation opening) :: outer) := by
      rw [hkind]
      rfl
    obtain ⟨last, hrunRest⟩ := rest.run_fallback hrest hrest'
      (block.otherwise (Text.indentation opening)) outer (i + 1)
    refine ⟨last, fun count => ?_⟩
    have hrun := run_directive (by rw [hkind]; simp) (hafter _)
      (run_append_of_ok (body.run_lines hbody hbody' (count + 1) _) (hrunRest _))
    rw [Branches.lines, hrun, Branches.render, BlockStack.isActive_cons, Bool.and_comm]
    rfl

end

end Run

/-- **A conversion follows the blocks**: when the lines form an outline and the conditions
that count have values, the conversion succeeds and puts out what the conversion along the
tree does. -/
theorem Conversion.convert_outline (c : Conversion) (file : Option Text) (outline : Outline)
    (hfits : outline.fits (c.keywords.forFile file) = true)
    (hdecided : outline.decided c.vars (c.keywords.forFile file) = true) :
    c.convert file outline.lines =
      .ok (outline.render c.vars (c.keywords.forFile file) c.strip true 0) :=
  convert_eq_ok_iff.mpr (outline.run_lines hfits hdecided 0 [])

/-- A block within the branch that is selected, with a condition that has no value behind
a true one. -/
def nestedOutline : Outline :=
  .block (Text.ofString "//#if a && !") (.code (Text.ofString "one") .nil)
    (.cons (Text.ofString "  //#elseif b")
      (.block (Text.ofString "    //#if c") (.code (Text.ofString "    two") .nil) .nil
        (.cons (Text.ofString "//#else") (.code (Text.ofString "//$$ three") .nil) .nil)
        (Text.ofString "    //#endif") (.code (Text.ofString "  four") .nil))
      (.cons (Text.ofString "//#elseif x > y") (.code (Text.ofString "five") .nil) .nil))
    (.cons (Text.ofString "//#else") (.code (Text.ofString "six") .nil) .nil)
    (Text.ofString "//#endif") (.code (Text.ofString "seven") .nil)

theorem Conversion.convert_nestedOutline :
    nestedOutline.fits Keywords.standard = true ∧
      nestedOutline.decided (Dictionary.ofList [(['b'], ['1'])]) Keywords.standard = true ∧
      convert ⟨Dictionary.ofList [(['b'], ['1'])], Dictionary.empty, true⟩ none
          nestedOutline.lines =
        .ok [Text.ofString "three", Text.ofString "  four", Text.ofString "seven"] := by
  have hfits : nestedOutline.fits Keywords.standard = true := by decide +kernel
  have hdecided :
      nestedOutline.decided (Dictionary.ofList [(['b'], ['1'])]) Keywords.standard = true := by
    decide +kernel
  refine ⟨hfits, hdecided, ?_⟩
  rw [convert_outline ⟨Dictionary.ofList [(['b'], ['1'])], Dictionary.empty, true⟩ none
    nestedOutline hfits hdecided]
  decide +kernel

end CommentSwitch
