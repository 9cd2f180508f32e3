import CommentSwitch.Proofs.Conversion.Nesting
import CommentSwitch.Proofs.Conversion.Outline

/-!
# The stack of open blocks

The stack that a conversion keeps says about each open block what the lines in front say:
which of its branches is being read, whether that branch is selected, whether a condition
was true and whether there was an `else`.

- `Conversion.advances_of_advance`: the six things a line can do to the stack
- `Conversion.Tracks.advance`: one line keeps this so
- `Conversion.tracks_of_run`: it is so behind every run
- `Conversion.isActive_iff`: a place is active when every enclosing branch is selected
- `Conversion.length_eq_level`: there are as many open blocks as the level says
-/

namespace CommentSwitch

namespace Conversion

open Nesting
open Keywords (Directive)

/-! ## §1 What a line can do to the stack -/

/-- The effect of a directive, read at `place` on a line with the given indentation. -/
inductive Advances (vars : Variables) (place : Place) (indent : Nat) :
    BlockStack → Directive → BlockStack → Prop
  | code {stack : BlockStack} : Advances vars place indent stack .code stack
  | opened {stack : BlockStack} {rest : Text} {holds : Bool}
      (hvalue : conditionValue vars place rest = .ok holds) :
      Advances vars place indent stack (.opening rest) (.opened holds indent :: stack)
  /-- Behind a true condition the next one is not read. -/
  | skipped {top : OpenBlock} {outer : BlockStack} {rest : Text}
      (helse : top.elseSeen = false) (hever : top.everTrue = true) :
      Advances vars place indent (top :: outer) (.branch rest) (top.skipped indent :: outer)
  | decided {top : OpenBlock} {outer : BlockStack} {rest : Text} {holds : Bool}
      (helse : top.elseSeen = false) (hever : top.everTrue = false)
      (hvalue : conditionValue vars place rest = .ok holds) :
      Advances vars place indent (top :: outer) (.branch rest) (.opened holds indent :: outer)
  | otherwise {top : OpenBlock} {outer : BlockStack} :
      Advances vars place indent (top :: outer) .otherwise (top.otherwise indent :: outer)
  | closed {top : OpenBlock} {outer : BlockStack} :
      Advances vars place indent (top :: outer) .closing outer

/-- The six things a line can do to the stack. -/
theorem advances_of_advance {vars : Variables} {place : Place} {indent : Nat}
    {stack after : BlockStack} {d : Directive}
    (h : advance vars place indent stack d = .ok after) :
    Advances vars place indent stack d after := by
  cases d with
  | code =>
    cases h
    exact .code
  | opening rest =>
    obtain ⟨holds, hvalue, h⟩ := bind_eq_ok_iff.mp h
    cases h
    exact .opened hvalue
  | branch rest =>
    cases stack with
    | nil => cases h
    | cons top outer =>
      simp only [advance, enterBranch] at h
      split at h
      · cases h
      next helse =>
      split at h
      · next hever =>
        cases h
        exact .skipped (by simpa using helse) hever
      · next hever =>
        obtain ⟨holds, hvalue, h⟩ := bind_eq_ok_iff.mp h
        cases h
        exact .decided (by simpa using helse) (by simpa using hever) hvalue
  | otherwise =>
    cases stack with
    | nil => cases h
    | cons top outer =>
      cases h
      exact .otherwise
  | closing =>
    cases stack with
    | nil => cases h
    | cons top outer =>
      cases h
      exact .closed

/-! ## §2 What the branches say about their block -/

section Branches

variable (vars : Variables) (k : Keywords)

/-- Whether a branch is selected: no branch before it has a true condition, and it has one
or is an `else` branch. -/
def chosen (earlier : List Branch) (current : Branch) : Bool :=
  !(earlier.any fun b => lineHolds vars k b.opening) &&
    (k.opensElse current.opening || lineHolds vars k current.opening)

/-- The state of a block in whose branch `current`, behind the branches `earlier`, a line
is read. -/
def blockOf (earlier : List Branch) (current : Branch) : OpenBlock where
  selected := chosen vars k earlier current
  elseSeen := (earlier ++ [current]).any fun b => k.opensElse b.opening
  everTrue := (earlier ++ [current]).any fun b => lineHolds vars k b.opening
  indent := Text.indentation current.opening

/-- The blocks of the stack, from the innermost on, are those that are open behind the
lines. -/
def Tracks (before : List Text) (stack : BlockStack) : Prop :=
  ∀ inner block, stack[inner]? = some block ↔
    ∃ earlier current, OpenAt k before inner earlier current ∧
      block = blockOf vars k earlier current

end Branches

section Branches

variable {vars : Variables} {k : Keywords}

@[simp] theorem blockOf_grow (earlier : List Branch) (current : Branch) (line : Text) :
    blockOf vars k earlier (current.grow line) = blockOf vars k earlier current := by
  simp [blockOf, chosen]

theorem elseSeen_blockOf_iff {earlier : List Branch} {current : Branch} :
    (blockOf vars k earlier current).elseSeen = true ↔
      ∃ b ∈ earlier ++ [current], k.opensElse b.opening = true :=
  List.any_eq_true

theorem everTrue_blockOf_iff {earlier : List Branch} {current : Branch} :
    (blockOf vars k earlier current).everTrue = true ↔
      ∃ b ∈ earlier ++ [current], lineHolds vars k b.opening = true :=
  List.any_eq_true

/-- A further line in a branch does not change the state of its block. -/
theorem exists_grow_iff {P : List Branch → Branch → Prop} {line : Text} {block : OpenBlock} :
    (∃ earlier current, (∃ b, P earlier b ∧ current = b.grow line) ∧
      block = blockOf vars k earlier current) ↔
      ∃ earlier current, P earlier current ∧ block = blockOf vars k earlier current := by
  constructor
  · rintro ⟨earlier, _, ⟨b, hb, rfl⟩, rfl⟩
    exact ⟨earlier, b, hb, blockOf_grow earlier b line⟩
  · rintro ⟨earlier, b, hb, rfl⟩
    exact ⟨earlier, b.grow line, ⟨b, hb, rfl⟩, (blockOf_grow earlier b line).symm⟩

/-- How the state of a block changes with its next branch. -/
theorem blockOf_next (earlier : List Branch) (current : Branch) (line : Text) :
    blockOf vars k (earlier ++ [current]) (.fresh line) =
      { selected := !(blockOf vars k earlier current).everTrue &&
          (k.opensElse line || lineHolds vars k line)
        elseSeen := (blockOf vars k earlier current).elseSeen || k.opensElse line
        everTrue := (blockOf vars k earlier current).everTrue || lineHolds vars k line
        indent := Text.indentation line } := by
  simp only [blockOf, chosen, List.any_append, List.any_cons, List.any_nil, Bool.or_false,
    Branch.opening_fresh]

theorem lineHolds_eq {line rest : Text} {place : Place} {holds : Bool}
    (hkind : k.classify (Text.trim line) = .opening rest ∨
      k.classify (Text.trim line) = .branch rest)
    (h : conditionValue vars place rest = .ok holds) : lineHolds vars k line = holds := by
  have hvalue := conditionValue_eq_ok h .unknown
  rcases hkind with hkind | hkind <;>
    cases holds <;> simp [lineHolds, lineValue?, hkind, hvalue, Except.toOption]

theorem lineHolds_of_otherwise {line : Text} (hkind : k.classify (Text.trim line) = .otherwise) :
    lineHolds vars k line = false := by
  simp [lineHolds, lineValue?, hkind]

/-! ## §3 One line -/

theorem tracks_nil : Tracks vars k [] [] := by
  intro inner block
  simp [not_openAt_nil]

/-- The block whose branch is being read is the innermost one of the stack. -/
theorem Tracks.exists_outer {before : List Text} {stack : BlockStack} {earlier : List Branch}
    {current : Branch} (h : Tracks vars k before stack)
    (hopen : OpenAt k before 0 earlier current) :
    ∃ outer, stack = blockOf vars k earlier current :: outer := by
  have htop := (h 0 _).mpr ⟨earlier, current, hopen, rfl⟩
  cases stack with
  | nil => cases htop
  | cons top outer =>
    cases htop
    exact ⟨outer, rfl⟩

/-- A branch that takes the place of the innermost one leaves the outer blocks alone. -/
theorem Tracks.replace {before : List Text} {line : Text} {top top' : OpenBlock}
    {outer : BlockStack} (h : Tracks vars k before (top :: outer))
    (hline : k.continues line = true)
    (htop : ∀ earlier current, top = blockOf vars k earlier current →
      top' = blockOf vars k (earlier ++ [current]) (.fresh line)) :
    Tracks vars k (before ++ [line]) (top' :: outer) := by
  intro inner block
  cases inner with
  | zero =>
    simp only [openAt_zero_concat_of_continues hline, List.getElem?_cons_zero,
      Option.some.injEq]
    constructor
    · rintro rfl
      obtain ⟨earlier, current, hopen, hstate⟩ := (h 0 top).mp rfl
      exact ⟨_, _, ⟨earlier, current, hopen, rfl, rfl⟩, htop _ _ hstate⟩
    · rintro ⟨_, _, ⟨earlier, current, hopen, rfl, rfl⟩, rfl⟩
      have hstate := (h 0 _).mpr ⟨earlier, current, hopen, rfl⟩
      exact htop earlier current (Option.some.inj hstate)
  | succ inner =>
    rw [List.getElem?_cons_succ, ← List.getElem?_cons_succ (a := top), h (inner + 1) block]
    simp only [openAt_succ_concat_of_continues hline, exists_grow_iff]

/-- One line keeps the stack true to the lines that have been read. -/
theorem Tracks.advance {before : List Text} {line : Text} {place : Place}
    {stack after : BlockStack} (h : Tracks vars k before stack)
    (hafter : Conversion.advance vars place (Text.indentation line) stack
      (k.classify (Text.trim line)) = .ok after) :
    Tracks vars k (before ++ [line]) after := by
  generalize hkind : k.classify (Text.trim line) = d at hafter
  cases advances_of_advance hafter with
  | code =>
    intro inner block
    simp only [h inner block, openAt_concat_of_code hkind, exists_grow_iff]
  | @opened _ rest holds hvalue =>
    have hline : k.opens line = true := Keywords.opens_eq_true_iff.mpr ⟨rest, hkind⟩
    have hstate : OpenBlock.opened holds (Text.indentation line) =
        blockOf vars k [] (.fresh line) := by
      simp [OpenBlock.opened, blockOf, chosen, Keywords.opensElse, hkind,
        lineHolds_eq (.inl hkind) hvalue]
    intro inner block
    cases inner with
    | zero => simp [openAt_zero_concat_of_opens hline, hstate, eq_comm]
    | succ inner =>
      simp only [List.getElem?_cons_succ, h inner block, openAt_succ_concat_of_opens hline,
        exists_grow_iff]
  | @skipped top outer rest helse hever =>
    have helse' : k.opensElse line = false := by simp [Keywords.opensElse, hkind]
    refine h.replace (Keywords.continues_eq_true_iff.mpr (.inl ⟨rest, hkind⟩)) ?_
    intro earlier current hstate
    rw [blockOf_next, ← hstate]
    simp [OpenBlock.skipped, hever, helse']
  | @decided top outer rest holds helse hever hvalue =>
    have helse' : k.opensElse line = false := by simp [Keywords.opensElse, hkind]
    refine h.replace (Keywords.continues_eq_true_iff.mpr (.inl ⟨rest, hkind⟩)) ?_
    intro earlier current hstate
    rw [blockOf_next, ← hstate, lineHolds_eq (.inr hkind) hvalue]
    simp [OpenBlock.opened, hever, helse, helse']
  | @otherwise top outer =>
    have helse' : k.opensElse line = true := by simp [Keywords.opensElse, hkind]
    refine h.replace (Keywords.continues_eq_true_iff.mpr (.inr hkind)) ?_
    intro earlier current hstate
    rw [blockOf_next, ← hstate, lineHolds_of_otherwise hkind]
    simp [OpenBlock.otherwise, helse']
  | @closed top outer =>
    intro inner block
    rw [← List.getElem?_cons_succ (a := top), h (inner + 1) block]
    simp only [openAt_concat_of_closes (Keywords.closes_eq_true_iff.mpr hkind), exists_grow_iff]

/-- The level rises and falls with the stack. -/
theorem length_of_advance {line : Text} {place : Place} {stack after : BlockStack}
    (hafter : Conversion.advance vars place (Text.indentation line) stack
      (k.classify (Text.trim line)) = .ok after) :
    (after.length : Int) = stack.length + level k [line] := by
  generalize hkind : k.classify (Text.trim line) = d at hafter
  have hsame (hopens : k.opens line = false) (hcloses : k.closes line = false)
      (hlength : after.length = stack.length) :
      (after.length : Int) = stack.length + level k [line] := by
    rw [level_of_neither hopens hcloses, hlength, Int.add_zero]
  cases advances_of_advance hafter with
  | opened =>
    rw [level_of_opens (Keywords.opens_eq_true_iff.mpr ⟨_, hkind⟩), List.length_cons]
    omega
  | closed =>
    rw [level_of_closes (Keywords.closes_eq_true_iff.mpr hkind), List.length_cons]
    omega
  | code | skipped | decided | otherwise =>
    exact hsame (by simp [Keywords.opens, hkind]) (by simp [Keywords.closes, hkind]) rfl

end Branches

/-! ## §4 Whole runs -/

section Run

variable {vars : Variables} {k : Keywords} {strip : Bool} {file : Option Text}
  {before : List Text} {stack : BlockStack} {out : List Text}

/-- The stack behind a run is true to the lines that have been read. -/
theorem tracks_of_run (h : run vars k strip file 0 [] before = .ok (stack, out)) :
    Tracks vars k before stack := by
  induction before using List.reverseRecOn generalizing stack out with
  | nil =>
    cases h
    exact tracks_nil
  | append_singleton lines line ih =>
    obtain ⟨mid, output, hlines, hafter, -⟩ := run_concat_eq_ok_iff.mp h
    exact (ih hlines).advance hafter

/-- There are as many open blocks as the level says. -/
theorem length_eq_level (h : run vars k strip file 0 [] before = .ok (stack, out)) :
    (stack.length : Int) = level k before := by
  induction before using List.reverseRecOn generalizing stack out with
  | nil =>
    cases h
    rfl
  | append_singleton lines line ih =>
    obtain ⟨mid, output, hlines, hafter, -⟩ := run_concat_eq_ok_iff.mp h
    rw [length_of_advance hafter, ih hlines, level_append]

/-- Whether every branch that is open behind the lines is selected. -/
def SelectedPlace (vars : Variables) (k : Keywords) (before : List Text) : Prop :=
  ∀ inner earlier current, OpenAt k before inner earlier current →
    chosen vars k earlier current = true

/-- A place is active when every enclosing branch is selected. -/
theorem isActive_iff (h : run vars k strip file 0 [] before = .ok (stack, out)) :
    stack.isActive = true ↔ SelectedPlace vars k before := by
  have htracks := tracks_of_run h
  rw [BlockStack.isActive, List.all_eq_true]
  constructor
  · intro hall inner earlier current hopen
    have hblock := (htracks inner _).mpr ⟨earlier, current, hopen, rfl⟩
    exact hall _ (List.mem_of_getElem? hblock)
  · intro hselected block hmem
    obtain ⟨inner, hblock⟩ := List.getElem?_of_mem hmem
    obtain ⟨earlier, current, hopen, rfl⟩ := (htracks inner block).mp hblock
    exact hselected inner earlier current hopen

end Run

end Conversion

end CommentSwitch
