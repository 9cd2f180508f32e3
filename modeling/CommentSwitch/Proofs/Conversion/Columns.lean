import CommentSwitch.Proofs.Conversion.Selection
import Mathlib.Data.Nat.Find

/-!
# The open blocks in two stacks

What is known of an open block can be kept in two stacks side by side: its state in one, the
indentation of its latest directive in the other.  Both grow and shrink together, whatever the
lines are, so that this is the same as one stack of blocks.  At each level they say what the lines
in front say about the block that is open there.

- `Columns.run`: a conversion that keeps its open blocks in two stacks
- `Columns.run_ofBlocks`: it does what a conversion with one stack does
- `Conversion.coherent_of_run`: how the marks of a block hang together
- `Conversion.everTrue_iff_readsTrue`: the conditions that have been evaluated
- `Conversion.columns_of_run`: both stacks after any lines
-/

namespace CommentSwitch

open Conversion Nesting
open Keywords (Directive)

/-! ## §1 Two stacks -/

/-- The state of an open block, without an indentation. -/
structure Frame where
  selected : Bool
  elseSeen : Bool
  everTrue : Bool
  deriving DecidableEq, Repr

namespace Frame

/-- The state of a block behind its first condition that may hold. -/
def opened (holds : Bool) : Frame where
  selected := holds
  elseSeen := false
  everTrue := holds

end Frame

/-- The state that belongs to a block. -/
def OpenBlock.frame (b : OpenBlock) : Frame where
  selected := b.selected
  elseSeen := b.elseSeen
  everTrue := b.everTrue

/-- The open blocks in two stacks, both innermost first. -/
@[ext] structure Columns where
  frames : List Frame
  /-- The indentations of the latest directives. -/
  indents : List Nat
  deriving DecidableEq, Repr

namespace Columns

/-- No block is open. -/
def empty : Columns := ⟨[], []⟩

/-- Puts a block on top. -/
def push (s : Columns) (frame : Frame) (indent : Nat) : Columns :=
  ⟨frame :: s.frames, indent :: s.indents⟩

/-- Takes the innermost block away. -/
def pop (s : Columns) : Columns := ⟨s.frames.tail, s.indents.tail⟩

/-- Puts a block in the place of the innermost one. -/
def replaceTop (s : Columns) (frame : Frame) (indent : Nat) : Columns := s.pop.push frame indent

/-- The state of the innermost block. -/
def top? (s : Columns) : Option Frame := s.frames.head?

/-- Whether the branch being read is selected in every open block. -/
def isActive (s : Columns) : Bool := s.frames.all (·.selected)

/-- The indentation of the innermost branch. -/
def indent (s : Columns) : Nat := s.indents.headD 0

/-- The open blocks after a line with the given directive. -/
def advance (vars : Variables) (place : Place) (indent : Nat) (s : Columns) :
    Directive → Except Diagnostic Columns
  | .opening rest => do
    let holds ← conditionValue vars place rest
    return s.push (.opened holds) indent
  | .branch rest =>
    match s.top? with
    | none => .error ⟨.elseifOutside, place⟩
    | some top =>
      if top.elseSeen then .error ⟨.elseifAfterElse, place⟩
      else if top.everTrue then .ok (s.replaceTop { top with selected := false } indent)
      else do
        let holds ← conditionValue vars place rest
        return s.replaceTop (.opened holds) indent
  | .otherwise =>
    match s.top? with
    | none => .error ⟨.elseOutside, place⟩
    | some top => .ok (s.replaceTop ⟨!top.everTrue, true, top.everTrue⟩ indent)
  | .closing =>
    match s.top? with
    | none => .error ⟨.endifOutside, place⟩
    | some _ => .ok s.pop
  | .code => .ok s

/-- What becomes of a line. -/
def outputLine (k : Keywords) (strip : Bool) (s : Columns) (line : Text) : List Text :=
  match k.classify (Text.trim line) with
  | .code => renderCode k strip s.isActive s.indent line
  | _ => renderDirective strip line

/-- Reads the lines that follow the first `count` lines of a file: the open blocks after them, and
what becomes of them. -/
def run (vars : Variables) (k : Keywords) (strip : Bool) (file : Option Text) :
    Nat → Columns → List Text → Except Diagnostic (Columns × List Text)
  | _, s, [] => .ok (s, [])
  | count, s, line :: rest => do
    let after ← s.advance vars ⟨some (count + 1), file⟩ (Text.indentation line)
      (k.classify (Text.trim line))
    let (last, output) ← run vars k strip file (count + 1) after rest
    return (last, s.outputLine k strip line ++ output)

/-- The columns of a stack of blocks. -/
def ofBlocks (stack : BlockStack) : Columns where
  frames := stack.map OpenBlock.frame
  indents := stack.map OpenBlock.indent

section Agreement

variable {vars : Variables} {k : Keywords} {strip : Bool} {file : Option Text}

theorem ofBlocks_nil : ofBlocks [] = empty := rfl

theorem isActive_ofBlocks (stack : BlockStack) : (ofBlocks stack).isActive = stack.isActive := by
  rw [isActive, ofBlocks, List.all_map]
  rfl

theorem indent_ofBlocks (stack : BlockStack) : (ofBlocks stack).indent = stack.indent :=
  BlockStack.headD_map_indent stack

/-- One line does the same to both stacks as to the stack of blocks. -/
theorem advance_ofBlocks (place : Place) (indent : Nat) (stack : BlockStack) (d : Directive) :
    (ofBlocks stack).advance vars place indent d =
      (Conversion.advance vars place indent stack d).map ofBlocks := by
  cases d with
  | code => rfl
  | opening rest =>
    rw [advance, Conversion.advance]
    cases conditionValue vars place rest <;> rfl
  | branch rest =>
    cases stack with
    | nil => rfl
    | cons top outer =>
      have htop : (ofBlocks (top :: outer)).top? = some top.frame := rfl
      simp only [advance, htop, Conversion.advance, enterBranch, OpenBlock.frame]
      split
      · rfl
      split
      · rfl
      · cases conditionValue vars place rest <;> rfl
  | otherwise => cases stack <;> rfl
  | closing => cases stack <;> rfl

theorem outputLine_ofBlocks (stack : BlockStack) (line : Text) :
    (ofBlocks stack).outputLine k strip line =
      (Conversion.outputLine k strip stack line).toList := by
  by_cases hcode : k.classify (Text.trim line) = .code
  · rw [toList_outputLine_of_code hcode, outputLine, hcode, isActive_ofBlocks, indent_ofBlocks]
  · rw [toList_outputLine_of_directive hcode, outputLine]
    split
    · next h => exact absurd h hcode
    · rfl

/-- **Two stacks are as good as one**: a conversion that keeps its open blocks in two stacks has
the same output, the same diagnostics and, line by line, the same blocks. -/
theorem run_ofBlocks (count : Nat) (stack : BlockStack) (lines : List Text) :
    run vars k strip file count (ofBlocks stack) lines =
      (Conversion.run vars k strip file count stack lines).map fun p => (ofBlocks p.1, p.2) := by
  induction lines generalizing count stack with
  | nil => rfl
  | cons line rest ih =>
    rw [run, Conversion.run, step, advance_ofBlocks, outputLine_ofBlocks]
    cases Conversion.advance vars ⟨some (count + 1), file⟩ (Text.indentation line) stack
        (k.classify (Text.trim line)) with
    | error d => rfl
    | ok after =>
      show (run vars k strip file (count + 1) (ofBlocks after) rest >>= _) = _
      rw [ih]
      cases hrest : Conversion.run vars k strip file (count + 1) after rest with
      | error d => simp [bind, Except.bind, pure, Except.pure, Except.map, hrest]
      | ok last => simp [bind, Except.bind, pure, Except.pure, Except.map, hrest]

end Agreement

end Columns

namespace Conversion

/-! ## §2 The marks of a block -/

/-- How the marks of an open block hang together. -/
structure Coherent (b : OpenBlock) : Prop where
  /-- In front of any `else`, a branch is selected for its own condition. -/
  everTrue : b.elseSeen = false → b.selected = true → b.everTrue = true
  /-- Behind an `else`, the branch is selected if no condition was true. -/
  selected : b.elseSeen = true → b.selected = !b.everTrue

section Marks

variable {vars : Variables} {k : Keywords} {strip : Bool} {file : Option Text}

theorem coherent_opened (holds : Bool) (indent : Nat) : Coherent (.opened holds indent) where
  everTrue := fun _ hselected => hselected
  selected := by
    intro helse
    cases helse

theorem coherent_skipped {b : OpenBlock} (helse : b.elseSeen = false) (indent : Nat) :
    Coherent (b.skipped indent) where
  everTrue := by
    intro _ hselected
    cases hselected
  selected := by
    intro helse'
    cases helse.symm.trans helse'

theorem coherent_otherwise (b : OpenBlock) (indent : Nat) : Coherent (b.otherwise indent) where
  everTrue := by
    intro helse
    cases helse
  selected := fun _ => rfl

/-- One line keeps the marks of all open blocks coherent. -/
theorem coherent_of_advances {place : Place} {indent : Nat} {stack after : BlockStack}
    {d : Directive} (hafter : Advances vars place indent stack d after)
    (h : ∀ b ∈ stack, Coherent b) : ∀ b ∈ after, Coherent b := by
  -- Only the block on top changes, if any.
  cases hafter with
  | code => exact h
  | opened hvalue => exact List.forall_mem_cons.mpr ⟨coherent_opened _ _, h⟩
  | skipped helse hever =>
    have houter := (List.forall_mem_cons.mp h).2
    exact List.forall_mem_cons.mpr ⟨coherent_skipped helse _, houter⟩
  | decided helse hever hvalue =>
    have houter := (List.forall_mem_cons.mp h).2
    exact List.forall_mem_cons.mpr ⟨coherent_opened _ _, houter⟩
  | otherwise =>
    have houter := (List.forall_mem_cons.mp h).2
    exact List.forall_mem_cons.mpr ⟨coherent_otherwise _ _, houter⟩
  | closed => exact (List.forall_mem_cons.mp h).2

theorem coherent_of_run {before out : List Text} {stack : BlockStack}
    (h : run vars k strip file 0 [] before = .ok (stack, out)) : ∀ b ∈ stack, Coherent b := by
  induction before using List.reverseRecOn generalizing stack out with
  | nil =>
    cases h
    intro b hb
    cases hb
  | append_singleton lines line ih =>
    obtain ⟨mid, output, hlines, hafter, -⟩ := run_concat_eq_ok_iff.mp h
    exact coherent_of_advances (advances_of_advance hafter) (ih hlines)

end Marks

/-! ## §3 Conditions that are evaluated -/

/-- The condition that is evaluated when a directive is read. -/
def conditionRead? (stack : BlockStack) : Directive → Option Text
  | .opening rest => some rest
  | .branch rest =>
    match stack with
    | [] => none
    | top :: _ => if top.elseSeen || top.everTrue then none else some rest
  | _ => none

/-- The conversion has evaluated the condition of the branch with number `i`, and it was true. -/
def ReadsTrue (vars : Variables) (k : Keywords) (strip : Bool) (file : Option Text)
    (outside : List Text) (branches : List Branch) (i : Nat) : Prop :=
  ∃ b stack output rest, branches[i]? = some b ∧
    run vars k strip file 0 [] (outside ++ linesOf (branches.take i)) = .ok (stack, output) ∧
    conditionRead? stack (k.classify (Text.trim b.opening)) = some rest ∧
    conditionValue vars ⟨some ((outside ++ linesOf (branches.take i)).length + 1), file⟩ rest =
      .ok true

section Conditions

variable {vars : Variables} {k : Keywords} {strip : Bool} {file : Option Text}

/-- A directive has nothing to do with the variables but for the condition that is evaluated. -/
theorem advance_eq_of_conditionRead? {vars' : Variables} {stack : BlockStack} {d : Directive}
    {place : Place}
    (h : ∀ rest, conditionRead? stack d = some rest →
      conditionValue vars place rest = conditionValue vars' place rest) (indent : Nat) :
    advance vars place indent stack d = advance vars' place indent stack d := by
  cases d with
  | opening rest => rw [advance, advance, h rest rfl]
  | branch rest =>
    cases stack with
    | nil => rfl
    | cons top outer =>
      rw [advance, advance, enterBranch, enterBranch]
      split
      · rfl
      split
      · rfl
      · next helse hever =>
        have hread : conditionRead? (top :: outer) (.branch rest) = some rest := by
          simp [conditionRead?, helse, hever]
        rw [h rest hread]
  | otherwise | closing | code => rfl

/-- What is evaluated is the condition of the line. -/
theorem eq_of_conditionRead? {stack : BlockStack} {d : Directive} {rest : Text}
    (h : conditionRead? stack d = some rest) : d = .opening rest ∨ d = .branch rest := by
  cases d with
  | opening rest' =>
    cases h
    exact .inl rfl
  | branch rest' =>
    cases stack with
    | nil => cases h
    | cons top outer =>
      simp only [conditionRead?, Option.ite_none_left_eq_some, Option.some.injEq] at h
      exact .inr (congrArg _ h.2)
  | otherwise | closing | code => cases h

/-- A condition that is true has its value at every place. -/
theorem conditionValue_of_lineHolds {line rest : Text}
    (hkind : k.classify (Text.trim line) = .opening rest ∨
      k.classify (Text.trim line) = .branch rest)
    (h : lineHolds vars k line = true) (place : Place) :
    conditionValue vars place rest = .ok true := by
  have hvalue : lineValue? vars k line = some true := beq_iff_eq.mp h
  rw [exists_conditionValue hkind (by rw [hvalue]; rfl) place, h]

end Conditions

end Conversion

namespace Nesting

/-- At the end of each of its earlier branches, the block was open too. -/
theorem OpenAt.openAt_earlier {k : Keywords} {before outside : List Text} {inner i : Nat}
    {earlier : List Branch} {current b : Branch} (h : OpenAt k before inner earlier current)
    (hb : earlier[i]? = some b) :
    OpenAt k (outside ++ linesOf (earlier.take (i + 1))) 0 (earlier.take i) b where
  split := ⟨outside, by rw [take_succ_of_getElem? hb, linesOf_concat]⟩
  block := by
    have hblock := h.block.take_succ i
    have hlt : i < earlier.length := (List.getElem?_eq_some_iff.mp hb).1
    rwa [List.take_append_of_le_length (by omega), take_succ_of_getElem? hb] at hblock
  complete := by
    intro b' hb'
    exact h.complete b' (List.mem_of_mem_take hb')
  inside := (h.complete b (List.mem_of_getElem? hb)).1
  level_eq := (h.complete b (List.mem_of_getElem? hb)).2

end Nesting

namespace Conversion

section Block

variable {vars : Variables} {k : Keywords} {strip : Bool} {file : Option Text}
  {before outside out : List Text} {stack : BlockStack} {inner i : Nat} {earlier : List Branch}
  {current b : Branch}

/-- A run has read the line that opens a branch, behind the branches before it. -/
theorem exists_advance_of_getElem? {branches : List Branch}
    (hrun : run vars k strip file 0 [] (outside ++ linesOf branches) = .ok (stack, out))
    (hb : branches[i]? = some b) :
    ∃ mid output after,
      run vars k strip file 0 [] (outside ++ linesOf (branches.take i)) = .ok (mid, output) ∧
        advance vars ⟨some ((outside ++ linesOf (branches.take i)).length + 1), file⟩
          (Text.indentation b.opening) mid (k.classify (Text.trim b.opening)) = .ok after := by
  have hbegins : outside ++ linesOf (branches.take i) ++ [b.opening] <+:
      outside ++ linesOf branches := by
    rw [linesOf_of_getElem? hb]
    exact ⟨b.body ++ linesOf (branches.drop (i + 1)), by simp [Branch.lines]⟩
  obtain ⟨after, output, hopening⟩ := exists_run_of_begins hbegins hrun
  obtain ⟨mid, output', hmid, hafter, -⟩ := run_concat_eq_ok_iff.mp hopening
  rw [Nat.zero_add] at hafter
  exact ⟨mid, output', after, hmid, hafter⟩

theorem trueAt_of_readsTrue {branches : List Branch}
    (h : ReadsTrue vars k strip file outside branches i) : TrueAt vars k branches i := by
  obtain ⟨b, mid, output, rest, hb, hmid, hread, hvalue⟩ := h
  exact ⟨b, hb, lineHolds_eq (eq_of_conditionRead? hread) hvalue⟩

/-- The first condition of a block that is true has been evaluated. -/
theorem readsTrue_of_first
    (hrun : run vars k strip file 0 [] (outside ++ linesOf (earlier ++ [current])) =
      .ok (stack, out))
    (hopen : OpenAt k before inner earlier current)
    (hb : (earlier ++ [current])[i]? = some b) (htrue : lineHolds vars k b.opening = true)
    (hfirst : ∀ j < i, ¬ TrueAt vars k (earlier ++ [current]) j) :
    ReadsTrue vars k strip file outside (earlier ++ [current]) i := by
  obtain ⟨mid, output, after, hmid, hafter⟩ := exists_advance_of_getElem? hrun hb
  obtain ⟨rest, hkind, hread⟩ : ∃ rest,
      (k.classify (Text.trim b.opening) = .opening rest ∨
        k.classify (Text.trim b.opening) = .branch rest) ∧
      conditionRead? mid (k.classify (Text.trim b.opening)) = some rest := by
    cases i with
    | zero =>
      have hopens : k.opens b.opening = true := by
        have hblock := hopen.block.take_succ 0
        rw [take_succ_of_getElem? hb] at hblock
        exact isBlock_singleton.mp hblock
      obtain ⟨rest, hkind⟩ := Keywords.opens_eq_true_iff.mp hopens
      exact ⟨rest, .inl hkind, by rw [hkind]; rfl⟩
    | succ i =>
      -- It is an `elseif`, for an `else` has no condition that could be true.
      obtain ⟨rest, hkind⟩ : ∃ rest, k.classify (Text.trim b.opening) = .branch rest := by
        rcases Keywords.continues_eq_true_iff.mp (hopen.block.continues_of_getElem? hb) with h | h
        · exact h
        · exact absurd h (classify_ne_otherwise htrue)
      refine ⟨rest, .inr hkind, ?_⟩
      have hlt : i < earlier.length := by
        have hlt := (List.getElem?_eq_some_iff.mp hb).1
        simp only [List.length_append, List.length_singleton] at hlt
        omega
      have hprevious : earlier[i]? = some earlier[i] := List.getElem?_eq_getElem hlt
      rw [List.take_append_of_le_length (by omega)] at hmid
      obtain ⟨outer, rfl⟩ := (tracks_of_run hmid).exists_outer (hopen.openAt_earlier hprevious)
      -- The line has been accepted, so there was no `else` in front of it.
      have helse : (blockOf vars k (earlier.take i) earlier[i]).elseSeen = false := by
        rw [hkind] at hafter
        cases advances_of_advance hafter with
        | skipped helse => exact helse
        | decided helse => exact helse
      -- No condition in front of it was true, so it is not skipped.
      have hever : (blockOf vars k (earlier.take i) earlier[i]).everTrue = false := by
        rw [Bool.eq_false_iff]
        intro hever
        obtain ⟨b', hb', htrue'⟩ := everTrue_blockOf_iff.mp hever
        rw [← take_succ_of_getElem? hprevious] at hb'
        obtain ⟨j, hj, hb'⟩ := mem_take_iff.mp hb'
        have hlookup : (earlier ++ [current])[j]? = some b' := by
          rw [List.getElem?_append_left (by omega), hb']
        exact hfirst j hj ⟨b', hlookup, htrue'⟩
      rw [hkind]
      simp [conditionRead?, helse, hever]
  exact ⟨b, mid, output, rest, hb, hmid, hread, conditionValue_of_lineHolds hkind htrue _⟩

/-- A block is marked as having had a true condition when such a condition has been evaluated. -/
theorem everTrue_iff_readsTrue
    (hrun : run vars k strip file 0 [] (outside ++ linesOf (earlier ++ [current])) =
      .ok (stack, out))
    (hopen : OpenAt k before inner earlier current) :
    (blockOf vars k earlier current).everTrue = true ↔
      ∃ i, ReadsTrue vars k strip file outside (earlier ++ [current]) i := by
  rw [everTrue_blockOf_iff]
  constructor
  · rintro ⟨b, hb, htrue⟩
    obtain ⟨n, hb⟩ := List.mem_iff_getElem?.mp hb
    have hsome : ∃ i, TrueAt vars k (earlier ++ [current]) i := ⟨n, b, hb, htrue⟩
    -- A later condition that is true need not have been evaluated, but the first one has been.
    classical
    obtain ⟨b', hb', htrue'⟩ := Nat.find_spec hsome
    exact ⟨Nat.find hsome,
      readsTrue_of_first hrun hopen hb' htrue' fun j hj => Nat.find_min hsome hj⟩
  · rintro ⟨i, hi⟩
    obtain ⟨b, hb, htrue⟩ := trueAt_of_readsTrue hi
    exact ⟨b, List.mem_of_getElem? hb, htrue⟩

end Block

/-! ## §4 Both stacks after any lines -/

/-- What two stacks say at a level about the block that is open there: it stands behind the lines
`outside`, and `branches` are its branches as far as they have been read. -/
structure Describes (vars : Variables) (k : Keywords) (strip : Bool) (file : Option Text)
    (outside : List Text) (branches : List Branch) (frame : Frame) (indent : Nat) : Prop where
  everTrue_iff : frame.everTrue = true ↔ ∃ i, ReadsTrue vars k strip file outside branches i
  elseSeen_iff : frame.elseSeen = true ↔ ∃ b ∈ branches, k.opensElse b.opening = true
  /-- In front of any `else`, a branch is selected for its own condition. -/
  everTrue_of_selected : frame.elseSeen = false → frame.selected = true → frame.everTrue = true
  /-- Behind an `else`, the branch is selected if no condition was true. -/
  selected_eq : frame.elseSeen = true → frame.selected = !frame.everTrue
  /-- The latest directive of the block has this indentation. -/
  indent_eq : ∃ last, branches.getLast? = some last ∧ indent = Text.indentation last.opening

/-- **Both stacks after any lines** that have been read without a fault.  They are equally high, as
high as there are more `if` lines than `endif` lines.  There is a level for each block that is open,
and at this level they tell its marks and its indentation, whatever blocks have been opened and
closed inside of it. -/
theorem columns_of_run {vars : Variables} {k : Keywords} {strip : Bool} {file : Option Text}
    {before out : List Text} {stack : BlockStack}
    (h : run vars k strip file 0 [] before = .ok (stack, out)) :
    ∃ columns : Columns,
      Columns.run vars k strip file 0 .empty before = .ok (columns, out) ∧
      columns = .ofBlocks stack ∧
      columns.frames.length = columns.indents.length ∧
      (columns.frames.length : Int) = before.countP k.opens - before.countP k.closes ∧
      (∀ inner, inner < columns.frames.length ↔
        ∃ earlier current, OpenAt k before inner earlier current) ∧
      ∀ inner outside earlier current, OpenAt k before inner earlier current →
        before = outside ++ linesOf (earlier ++ [current]) →
        ∃ frame indent, columns.frames[inner]? = some frame ∧
          columns.indents[inner]? = some indent ∧
          Describes vars k strip file outside (earlier ++ [current]) frame indent := by
  have htracks := tracks_of_run h
  have hcolumns : Columns.run vars k strip file 0 .empty before = .ok (.ofBlocks stack, out) := by
    rw [← Columns.ofBlocks_nil, Columns.run_ofBlocks, h]
    rfl
  refine ⟨.ofBlocks stack, hcolumns, rfl, ?height, ?level, ?levels, ?describes⟩
  case height => simp [Columns.ofBlocks]
  case level =>
    rw [Columns.ofBlocks, List.length_map]
    exact length_eq_level h
  case levels =>
    intro inner
    rw [Columns.ofBlocks, List.length_map]
    constructor
    · intro hlt
      obtain ⟨earlier, current, hopen, -⟩ :=
        (htracks inner _).mp (List.getElem?_eq_getElem hlt)
      exact ⟨earlier, current, hopen⟩
    · rintro ⟨earlier, current, hopen⟩
      have hblock := (htracks inner _).mpr ⟨earlier, current, hopen, rfl⟩
      exact (List.getElem?_eq_some_iff.mp hblock).1
  case describes =>
    rintro inner outside earlier current hopen rfl
    -- The block on this level is made from its branches alone.
    have hblock := (htracks inner _).mpr ⟨earlier, current, hopen, rfl⟩
    have hcoherent := coherent_of_run h _ (List.mem_of_getElem? hblock)
    refine ⟨(blockOf vars k earlier current).frame, (blockOf vars k earlier current).indent,
      ?_, ?_, ?_⟩
    · simp [Columns.ofBlocks, hblock]
    · simp [Columns.ofBlocks, hblock]
    · exact
        { everTrue_iff := everTrue_iff_readsTrue h hopen
          elseSeen_iff := @elseSeen_blockOf_iff vars k earlier current
          everTrue_of_selected := hcoherent.everTrue
          selected_eq := hcoherent.selected
          indent_eq := ⟨current, by simp, rfl⟩ }

/-- The first branch of a block. -/
def closedFirst : Branch := ⟨"//#if b".toList, []⟩

/-- The second branch, as far as it has been read: a block has been opened and closed in it. -/
def closedInside : Branch :=
  ⟨"  //#elseif a".toList, ["y".toList, "    //#if b".toList, "//#endif".toList]⟩

theorem openAt_closedInside :
    OpenAt .standard (linesOf [closedFirst, closedInside]) 0 [closedFirst] closedInside := by
  have hfirst : OpenAt .standard closedFirst.lines 0 [] closedFirst := .of_opens [] (by decide)
  have hsecond : OpenAt .standard (closedFirst.lines ++ ["  //#elseif a".toList]) 0 [closedFirst]
      (.fresh "  //#elseif a".toList) := hfirst.next (by decide)
  have hcode : OpenAt .standard (closedFirst.lines ++ ["  //#elseif a".toList] ++ ["y".toList]) 0
      [closedFirst] ⟨"  //#elseif a".toList, ["y".toList]⟩ :=
    (openAt_concat_of_code (by decide)).mpr ⟨_, hsecond, rfl⟩
  have hopens : OpenAt .standard
      (closedFirst.lines ++ ["  //#elseif a".toList] ++ ["y".toList] ++ ["    //#if b".toList]) 1
      [closedFirst] ⟨"  //#elseif a".toList, ["y".toList, "    //#if b".toList]⟩ :=
    (openAt_succ_concat_of_opens (by decide)).mpr ⟨_, hcode, rfl⟩
  exact (openAt_concat_of_closes (by decide)).mpr ⟨_, hopens, rfl⟩

/-- The indentation is that of the second branch, though an inner block came after it, and its
condition has been evaluated. -/
theorem columns_of_run_closedInside :
    Columns.run (Dictionary.ofList [(['a'], [])]) .standard true none 0 .empty
        (linesOf [closedFirst, closedInside]) = .ok (⟨[⟨true, false, true⟩], [2]⟩, ["y".toList]) ∧
      ∃ i, ReadsTrue (Dictionary.ofList [(['a'], [])]) .standard true none []
        [closedFirst, closedInside] i := by
  have hrun : run (Dictionary.ofList [(['a'], [])]) .standard true none 0 []
      (linesOf [closedFirst, closedInside]) =
        .ok ([⟨true, false, true, 2⟩], ["y".toList]) := by decide +kernel
  obtain ⟨columns, hcolumns, rfl, -, -, -, hdescribes⟩ := columns_of_run hrun
  obtain ⟨frame, indent, hframe, -, hblock⟩ :=
    hdescribes 0 [] [closedFirst] closedInside openAt_closedInside rfl
  obtain rfl : (⟨true, false, true⟩ : Frame) = frame := Option.some.inj hframe
  exact ⟨hcolumns, hblock.everTrue_iff.mp rfl⟩

end Conversion

end CommentSwitch
