import CommentSwitch.Proofs.Conversion.Idempotence
import Mathlib.Data.List.Forall2

/-!
# Conversion forgets its history

Tags exist so that a file can be converted under ever new variables.  However often
that has been done, the next conversion has the result that the first file would have:
each line is at any time the line it was at first or its one tagged form.

The tagged form depends on the indentation of the branch, and this depends on the
directive lines alone, not on the variables.

- `Conversion.map_indent_of_advance`: variables do not matter for indentations
- `Variant.keptLine`, `Toggled.run`: a line, and a file, stay variants of the first
- `Variant.comment_eq`, `Variant.alike_restore`: all variants of a line are switched off
  and on alike
- `Conversion.convert_passes`: a history of passes does not show
-/

namespace CommentSwitch

open Conversion
open Keywords (Directive)

/-! ## §1 Indentations of the open branches -/

namespace Conversion

/-- The indentations of the open branches after a line with the given directive. -/
def advanceIndents (indent : Nat) (indents : List Nat) : Directive → List Nat
  | .opening _ => indent :: indents
  | .branch _ => indent :: indents.tail
  | .otherwise => indent :: indents.tail
  | .closing => indents.tail
  | .code => indents

/-- Variables do not matter for the indentations of the open branches. -/
theorem map_indent_of_advance {vars : Variables} {place : Place} {indent : Nat}
    {stack after : BlockStack} {d : Directive}
    (h : advance vars place indent stack d = .ok after) :
    after.map (·.indent) = advanceIndents indent (stack.map (·.indent)) d := by
  cases d with
  | opening rest =>
    obtain ⟨holds, -, hafter⟩ := bind_eq_ok_iff.mp h
    cases hafter
    rfl
  | branch rest =>
    cases stack with
    | nil => cases h
    | cons block outer =>
      simp only [advance, enterBranch] at h
      split at h
      · cases h
      split at h
      · cases h
        rfl
      · obtain ⟨holds, -, hafter⟩ := bind_eq_ok_iff.mp h
        cases hafter
        rfl
  | otherwise =>
    cases stack with
    | nil => cases h
    | cons block outer =>
      cases h
      rfl
  | closing =>
    cases stack with
    | nil => cases h
    | cons block outer =>
      cases h
      rfl
  | code =>
    cases h
    rfl

end Conversion

/-! ## §2 Variants of a line -/

/-- A line that can be switched off and on without loss: if it is code, it has no tag
yet, and unless it is blank it is indented by ordinary spaces. -/
structure Switchable (k : Keywords) (line : Text) : Prop where
  untagged : k.classify (Text.trim line) = .code →
    Text.startsWith k.evalToken (Text.trim line) = false
  spaced : k.classify (Text.trim line) = .code → Text.trim line ≠ [] →
    ∀ c ∈ Text.leadingBlank line, c = ' '

instance (k : Keywords) (line : Text) : Decidable (Switchable k line) :=
  decidable_of_iff
    (k.classify (Text.trim line) = .code →
      Text.startsWith k.evalToken (Text.trim line) = false ∧
        (Text.trim line ≠ [] → (Text.leadingBlank line).all (· == ' ') = true))
    ⟨fun h => ⟨fun hcode => (h hcode).1,
        fun hcode htext => by simpa using (h hcode).2 htext⟩,
      fun h hcode => ⟨h.untagged hcode, fun htext => by simpa using h.spaced hcode htext⟩⟩

/-- What a line can have become, `d` being the indentation of its branch. -/
inductive Variant (k : Keywords) (d : Nat) (line : Text) : Text → Prop where
  /-- The line itself. -/
  | same : Variant k d line line
  /-- The line with a tag in place of the first `d` spaces. -/
  | tagged (hcode : k.classify (Text.trim line) = .code) (htext : Text.trim line ≠ [])
      (hd : d ≤ Text.indentation line) :
      Variant k d line (Tag.tagged k.evalToken d (' ' :: line.drop d))
  /-- A blank line for a blank line. -/
  | blank {line' : Text} (hblank : Text.trim line = []) (hblank' : Text.trim line' = []) :
      Variant k d line line'
  /-- A bare tag for a blank line. -/
  | bare (hblank : Text.trim line = []) : Variant k d line (Tag.tagged k.evalToken d [])

/-- The spaces that a tag has replaced make up for the part of the line that is gone. -/
theorem Switchable.spaces_append_drop {k : Keywords} {line : Text} (hline : Switchable k line)
    (hcode : k.classify (Text.trim line) = .code) (htext : Text.trim line ≠ []) {d : Nat}
    (hd : d ≤ Text.indentation line) : Text.spaces d ++ line.drop d = line := by
  have hspaces : line.take d = Text.spaces d := by
    rw [Text.take_eq_take_leadingBlank hd]
    refine List.eq_replicate_iff.mpr ⟨List.length_take_of_le hd, fun c hc => ?_⟩
    exact hline.spaced hcode htext c (List.mem_of_mem_take hc)
  rw [← hspaces, List.take_append_drop]

/-- Two lines that are equal or both blank. -/
def AlikeLine (line line' : Text) : Prop :=
  line = line' ∨ (Text.isBlankLine line = true ∧ Text.isBlankLine line' = true)

section Variant

variable {k : Keywords} (hvalid : k.validate = .ok ()) (hcompact : k.Compact)

include hvalid hcompact

theorem Variant.sameReading {d : Nat} {line line' : Text} (h : Variant k d line line') :
    SameReading k line line' := by
  cases h with
  | same => exact .inl rfl
  | tagged hcode htext hd =>
    exact .inr ⟨hcode, Keywords.classify_tagged_space hvalid hcompact d _⟩
  | blank hblank hblank' =>
    rw [SameReading, hblank, hblank']
    exact .inr ⟨Keywords.classify_nil hvalid, Keywords.classify_nil hvalid⟩
  | bare hblank =>
    rw [SameReading, hblank]
    exact .inr ⟨Keywords.classify_nil hvalid,
      Keywords.classify_tagged hvalid hcompact d (by simp)⟩

/-- In an inactive place every variant of a line takes the form that the line itself
takes. -/
theorem Variant.comment_eq {d : Nat} {line line' : Text} (h : Variant k d line line')
    (hline : Switchable k line) :
    Tag.comment k.evalToken d line' = Tag.comment k.evalToken d line := by
  have htag := Keywords.proper_evalToken hvalid hcompact
  cases h with
  | same => rfl
  | tagged hcode htext hd =>
    rw [Tag.comment_tagged htag, Tag.comment_of_aligned htext (hline.untagged hcode) hd]
  | blank hblank hblank' => rw [Tag.comment_of_blank hblank, Tag.comment_of_blank hblank']
  | bare hblank => rw [Tag.comment_tagged htag, Tag.comment_of_blank hblank]

/-- In an active place every variant of a line becomes the line again, up to blank. -/
theorem Variant.alike_restore {d : Nat} {line line' : Text} (h : Variant k d line line')
    (hline : Switchable k line) (hcode : k.classify (Text.trim line) = .code) :
    AlikeLine (Tag.restore k.evalToken line') (Tag.restore k.evalToken line) := by
  have htag := Keywords.proper_evalToken hvalid hcompact
  have hself : Tag.restore k.evalToken line = line :=
    Tag.restore_of_untagged (hline.untagged hcode)
  rw [hself]
  cases h with
  | same => exact .inl hself
  | tagged _ htext hd =>
    rw [Tag.restore_tagged htag]
    exact .inl (hline.spaces_append_drop hcode htext hd)
  | blank hblank hblank' =>
    rw [Tag.restore_of_blank htag hblank']
    exact .inr ⟨Text.isBlankLine_iff.mpr hblank', Text.isBlankLine_iff.mpr hblank⟩
  | bare hblank =>
    have hspaces : Text.trim (Text.spaces d ++ Tag.dropSpace []) = [] :=
      Text.trim_append_of_blank fun c hc => Text.isBlank_of_mem_spaces hc
    rw [Tag.restore_tagged htag]
    exact .inr ⟨Text.isBlankLine_iff.mpr hspaces, Text.isBlankLine_iff.mpr hblank⟩

/-- All variants of a line are kept alike, up to blank. -/
theorem Variant.alike_keptLine {stack : BlockStack} {line line' : Text}
    (h : Variant k stack.indent line line') (hline : Switchable k line) :
    AlikeLine (keptLine k stack line') (keptLine k stack line) := by
  rcases h.sameReading hvalid hcompact with rfl | ⟨hcode, hcode'⟩
  · exact .inl rfl
  cases hactive : stack.isActive with
  | true =>
    rw [keptLine_of_active hcode hactive, keptLine_of_active hcode' hactive]
    exact h.alike_restore hvalid hcompact hline hcode
  | false =>
    rw [keptLine_of_inactive hcode hactive, keptLine_of_inactive hcode' hactive]
    exact .inl (h.comment_eq hvalid hcompact hline)

theorem Variant.alike_outputLine {stack : BlockStack} {line line' : Text}
    (h : Variant k stack.indent line line') (hline : Switchable k line) (strip : Bool) :
    List.Forall₂ AlikeLine (outputLine k strip stack line').toList
      (outputLine k strip stack line).toList := by
  have hkeeps : keeps k strip stack line' = keeps k strip stack line := by
    rcases h.sameReading hvalid hcompact with rfl | ⟨hcode, hcode'⟩
    · rfl
    · rw [keeps, keeps, hcode, hcode']
  rw [outputLine_eq, outputLine_eq, hkeeps]
  split
  · exact .cons (h.alike_keptLine hvalid hcompact hline) .nil
  · exact .nil

omit hvalid hcompact in
theorem Variant.of_comment {d : Nat} {line : Text}
    (hcode : k.classify (Text.trim line) = .code) :
    Variant k d line (Tag.comment k.evalToken d line) := by
  rcases Tag.comment_cases k.evalToken d line with
    ⟨hblank, hform⟩ | ⟨htext, -, hd, hform⟩ | ⟨-, -, hform⟩
  · rw [hform]
    exact .bare hblank
  · rw [hform]
    exact .tagged hcode htext hd
  · rw [hform]
    exact .same

/-- A pass turns a variant of a line into a variant of the line. -/
theorem Variant.keptLine {stack : BlockStack} {line line' : Text}
    (h : Variant k stack.indent line line') (hline : Switchable k line) :
    Variant k stack.indent line (keptLine k stack line') := by
  have hsame := h.sameReading hvalid hcompact
  rcases keptLine_cases k stack line' with
    ⟨hdirective, hkept⟩ | ⟨hcode', -, hkept⟩ | ⟨hcode', -, hkept⟩
  · -- The variant of a directive line is this line.
    obtain rfl : line' = line := hsame.resolve_right fun hboth => hdirective hboth.2
    rw [hkept]
    exact .same
  · have hcode := hsame.classify_eq_code hcode'
    have hself := Tag.restore_of_untagged (hline.untagged hcode)
    rw [hkept]
    rcases h.alike_restore hvalid hcompact hline hcode with heq | ⟨hblank', hblank⟩
    · rw [heq, hself]
      exact .same
    · rw [hself] at hblank
      exact .blank (Text.isBlankLine_iff.mp hblank) (Text.isBlankLine_iff.mp hblank')
  · rw [hkept, h.comment_eq hvalid hcompact hline]
    exact .of_comment (hsame.classify_eq_code hcode')

end Variant

/-! ## §3 Variants of a file -/

/-- What the lines of a file can have become, the open branches having the given
indentations. -/
inductive Toggled (k : Keywords) : List Nat → List Text → List Text → Prop where
  | nil {indents : List Nat} : Toggled k indents [] []
  | cons {indents : List Nat} {line line' : Text} {rest rest' : List Text}
      (hline : Variant k (indents.headD 0) line line')
      (hrest : Toggled k (advanceIndents (Text.indentation line) indents
        (k.classify (Text.trim line))) rest rest') :
      Toggled k indents (line :: rest) (line' :: rest')

theorem Toggled.refl (k : Keywords) (indents : List Nat) (lines : List Text) :
    Toggled k indents lines lines := by
  induction lines generalizing indents with
  | nil => exact .nil
  | cons line rest ih => exact .cons .same (ih _)

/-- Two results that are the same error, or lines that are alike one by one. -/
inductive Alike : Except Diagnostic (List Text) → Except Diagnostic (List Text) → Prop where
  | failure (d : Diagnostic) : Alike (.error d) (.error d)
  | success {out out' : List Text} (h : List.Forall₂ AlikeLine out out') :
      Alike (.ok out) (.ok out')

section Toggled

variable {k : Keywords} (hvalid : k.validate = .ok ()) (hcompact : k.Compact)
variable {vars : Variables} {strip : Bool} {file : Option Text}

include hvalid hcompact

/-- A pass over a variant of a file puts out a variant of the file. -/
theorem Toggled.run {count : Nat} (stack : BlockStack) {last : BlockStack}
    {lines lines' out : List Text}
    (h : Toggled k (stack.map (·.indent)) lines lines')
    (hlines : ∀ line ∈ lines, Switchable k line)
    (hrun : Conversion.run vars k false file count stack lines' = .ok (last, out)) :
    Toggled k (stack.map (·.indent)) lines out := by
  induction lines generalizing count stack lines' out with
  | nil =>
    cases h
    cases hrun
    exact .nil
  | cons line rest ih =>
    obtain _ | ⟨hline, hrest⟩ := h
    obtain ⟨after, output, hafter, hrun', rfl⟩ := run_plain_cons_iff.mp hrun
    rw [BlockStack.headD_map_indent] at hline
    rw [(hline.sameReading hvalid hcompact).advance_eq] at hafter
    rw [← map_indent_of_advance hafter] at hrest
    -- The indentations at the next line are those of the first file, so they do not
    -- depend on the variables of the pass.
    refine .cons ?_ ?_
    · rw [BlockStack.headD_map_indent]
      exact hline.keptLine hvalid hcompact (hlines line List.mem_cons_self)
    · rw [← map_indent_of_advance hafter]
      exact ih after hrest (fun l hl => hlines l (List.mem_cons_of_mem _ hl)) hrun'

/-- From all variants of a file a conversion makes the same, up to blank lines. -/
theorem Toggled.alike_convertFrom (count : Nat) (stack : BlockStack) {lines lines' : List Text}
    (h : Toggled k (stack.map (·.indent)) lines lines')
    (hlines : ∀ line ∈ lines, Switchable k line) :
    Alike (convertFrom vars k strip file count stack lines')
      (convertFrom vars k strip file count stack lines) := by
  induction lines generalizing count stack lines' with
  | nil =>
    cases h
    cases stack with
    | nil => exact .success .nil
    | cons block outer => exact .failure _
  | cons line rest ih =>
    obtain _ | ⟨hline, hrest⟩ := h
    rw [BlockStack.headD_map_indent] at hline
    rw [convertFrom_cons, convertFrom_cons, (hline.sameReading hvalid hcompact).advance_eq]
    cases hafter : advance vars ⟨some (count + 1), file⟩ (Text.indentation line) stack
        (k.classify (Text.trim line)) with
    | error d => exact .failure d
    | ok after =>
      -- Both conversions go on with the same blocks.
      rw [← map_indent_of_advance hafter] at hrest
      have hhead :=
        hline.alike_outputLine hvalid hcompact (hlines line List.mem_cons_self) strip
      have htail := ih (count + 1) after hrest fun l hl => hlines l (List.mem_cons_of_mem _ hl)
      change Alike (convertFrom vars k strip file (count + 1) after _ >>= _)
        (convertFrom vars k strip file (count + 1) after _ >>= _)
      revert htail
      generalize convertFrom vars k strip file (count + 1) after _ = result'
      generalize convertFrom vars k strip file (count + 1) after _ = result
      intro htail
      cases htail with
      | failure d => exact .failure d
      | success hout => exact .success (List.rel_append hhead hout)

end Toggled

/-! ## §4 Histories -/

/-- **Conversion forgets its history**: after any number of passes under any variables, a
conversion ends in the error that it would end in at first, or puts out the lines that it
would put out at first, up to blank lines. -/
theorem Conversion.convert_passes {keywords : KeywordRegistry} {file : Option Text}
    (hvalid : (keywords.forFile file).validate = .ok ())
    (hcompact : (keywords.forFile file).Compact)
    {lines out : List Text} (hlines : ∀ line ∈ lines, Switchable (keywords.forFile file) line)
    {sets : List Variables} (h : passes keywords file lines sets = .ok out)
    (vars : Variables) (strip : Bool) :
    Alike (convert ⟨vars, keywords, strip⟩ file out)
      (convert ⟨vars, keywords, strip⟩ file lines) := by
  have htoggled : Toggled (keywords.forFile file) [] lines out := by
    refine passes_induction (P := Toggled (keywords.forFile file) [] lines) ?_ h (.refl _ _ _)
    intro set mid next hnext hmid
    exact hmid.run hvalid hcompact [] hlines (convert_eq_ok_iff.mp hnext)
  exact htoggled.alike_convertFrom hvalid hcompact 0 [] hlines

/-- A block in which each branch has a blank line. -/
def twoBranches : List Text :=
  [Text.ofString " //#if a", Text.ofString "  one", Text.ofString "", Text.ofString " //#else",
    Text.ofString "   two", Text.ofString "\t", Text.ofString "left", Text.ofString " //#endif"]

/-- This block when each branch has been off once. -/
def twoBranchesToggled : List Text :=
  [Text.ofString " //#if a", Text.ofString " //$$  one", Text.ofString " //$$",
    Text.ofString " //#else", Text.ofString "   two", Text.ofString " ", Text.ofString "left",
    Text.ofString " //#endif"]

theorem Conversion.convert_twoBranchesToggled :
    passes Dictionary.empty none twoBranches
        [Dictionary.ofList [(['a'], [])], Dictionary.empty] = .ok twoBranchesToggled ∧
      Alike (convert ⟨Dictionary.ofList [(['a'], [])], Dictionary.empty, true⟩ none
          twoBranchesToggled)
        (convert ⟨Dictionary.ofList [(['a'], [])], Dictionary.empty, true⟩ none
          twoBranches) := by
  have hpasses : passes Dictionary.empty none twoBranches
      [Dictionary.ofList [(['a'], [])], Dictionary.empty] = .ok twoBranchesToggled := by
    decide +kernel
  have hlines : ∀ line ∈ twoBranches, Switchable Keywords.standard line := by decide +kernel
  have hvalid : (KeywordRegistry.forFile Dictionary.empty none).validate = .ok () :=
    Keywords.validate_standard
  exact ⟨hpasses, convert_passes hvalid Keywords.compact_standard hlines hpasses _ true⟩

end CommentSwitch
