import CommentSwitch.Proofs.Conversion.Passes

/-!
# Converting a converted file

A file that has been converted is left as it is by a second conversion with the same
settings: each of its lines is read as what it was before, and is kept as it is.

- `Conversion.sameReading_keptLine`: a kept line has the effect of the line it comes from
- `Conversion.keptLine_keptLine`: a kept line is kept as it is
- `Conversion.convert_convert`: a second conversion changes nothing
-/

namespace CommentSwitch

namespace Conversion

/-! ## §1 Lines with the same effect -/

/-- Two lines that open, change and close the same blocks: they are equal, or both are
code. -/
def SameReading (k : Keywords) (line line' : Text) : Prop :=
  line' = line ∨
    (k.classify (Text.trim line) = .code ∧ k.classify (Text.trim line') = .code)

theorem SameReading.classify_eq_code {k : Keywords} {line line' : Text}
    (h : SameReading k line line') (hcode' : k.classify (Text.trim line') = .code) :
    k.classify (Text.trim line) = .code := by
  rcases h with rfl | ⟨hcode, -⟩
  · exact hcode'
  · exact hcode

theorem SameReading.advance_eq {k : Keywords} {line line' : Text}
    (h : SameReading k line line') (vars : Variables) (place : Place) (stack : BlockStack) :
    advance vars place (Text.indentation line') stack (k.classify (Text.trim line')) =
      advance vars place (Text.indentation line) stack (k.classify (Text.trim line)) := by
  rcases h with rfl | ⟨hcode, hcode'⟩
  · rfl
  · -- A line of code has no effect, however deep it is indented.
    rw [hcode, hcode']
    rfl

/-- A line of code whose tag is followed by no token once it has been taken away. -/
def NoTokenBehindTag (k : Keywords) (line : Text) : Prop :=
  k.classify (Text.trim line) = .code → Text.startsWith k.evalToken (Text.trim line) = true →
    ∀ role, Text.startsWith (k.token role) (Text.trim (Tag.uncomment k.evalToken line)) = false

/-! ## §2 One line -/

section Line

variable {k : Keywords} (hvalid : k.validate = .ok ()) (hcompact : k.Compact)

include hvalid hcompact

theorem classify_comment {line : Text} (hcode : k.classify (Text.trim line) = .code) (d : Nat) :
    k.classify (Text.trim (Tag.comment k.evalToken d line)) = .code := by
  rcases Tag.comment_cases k.evalToken d line with
    ⟨-, hform⟩ | ⟨-, -, -, hform⟩ | ⟨-, -, hform⟩
  · rw [hform]
    exact Keywords.classify_tagged hvalid hcompact d (by simp)
  · rw [hform]
    exact Keywords.classify_tagged_space hvalid hcompact d _
  · rw [hform]
    exact hcode

/-- A kept line has the effect of the line it comes from. -/
theorem sameReading_keptLine {stack : BlockStack} {line : Text}
    (hclear : stack.isActive = true → NoTokenBehindTag k line) :
    SameReading k line (keptLine k stack line) := by
  rcases keptLine_cases k stack line with
    ⟨-, hkept⟩ | ⟨hcode, hactive, hkept⟩ | ⟨hcode, -, hkept⟩
  · exact .inl hkept
  · rw [hkept, Tag.restore]
    split
    · next hstarts =>
      have htokens := hclear hactive hcode hstarts
      exact .inr ⟨hcode, Keywords.classify_eq_code_iff.mpr fun role _ => htokens role⟩
    · exact .inl rfl
  · rw [hkept]
    exact .inr ⟨hcode, classify_comment hvalid hcompact hcode _⟩

theorem comment_comment (d : Nat) (line : Text) :
    Tag.comment k.evalToken d (Tag.comment k.evalToken d line) =
      Tag.comment k.evalToken d line := by
  have htag := Keywords.proper_evalToken hvalid hcompact
  rcases Tag.comment_cases k.evalToken d line with
    ⟨-, hform⟩ | ⟨-, -, -, hform⟩ | ⟨-, -, hform⟩
  · rw [hform, Tag.comment_tagged htag]
  · rw [hform, Tag.comment_tagged htag]
  · rw [hform, hform]

/-- A kept line is kept as it is. -/
theorem keptLine_keptLine {stack : BlockStack} {line : Text}
    (hclear : stack.isActive = true → NoTokenBehindTag k line) :
    keptLine k stack (keptLine k stack line) = keptLine k stack line := by
  rcases keptLine_cases k stack line with
    ⟨-, hkept⟩ | ⟨hcode, hactive, hkept⟩ | ⟨hcode, hinactive, hkept⟩
  · rw [hkept, hkept]
  · -- An active line may have lost its tag, and there is no second one behind it.
    cases hstarts : Text.startsWith k.evalToken (Text.trim line) with
    | false =>
      have hsame : Tag.restore k.evalToken line = line := Tag.restore_of_untagged hstarts
      rw [hkept, hsame, hkept, hsame]
    | true =>
      have htokens := hclear hactive hcode hstarts
      have hform : Tag.restore k.evalToken line = Tag.uncomment k.evalToken line := by
        simp [Tag.restore, hstarts]
      have hcode' : k.classify (Text.trim (Tag.uncomment k.evalToken line)) = .code :=
        Keywords.classify_eq_code_iff.mpr fun role _ => htokens role
      rw [hkept, hform, keptLine_of_active hcode' hactive]
      exact Tag.restore_of_untagged (htokens .evalRole)
  · have hcode' := classify_comment hvalid hcompact hcode stack.indent
    rw [hkept, keptLine_of_inactive hcode' hinactive, comment_comment hvalid hcompact]

end Line

/-! ## §3 Whole files -/

/-- A run over what a run puts out puts out the same and opens the same blocks. -/
theorem run_run {vars : Variables} {k : Keywords} {file : Option Text}
    (hvalid : k.validate = .ok ()) (hcompact : k.Compact)
    {count : Nat} {stack last : BlockStack} {lines out : List Text}
    (hclear : ∀ before line after mid output, before ++ line :: after = lines →
      run vars k false file count stack before = .ok (mid, output) → mid.isActive = true →
        NoTokenBehindTag k line)
    (h : run vars k false file count stack lines = .ok (last, out)) :
    run vars k false file count stack out = .ok (last, out) := by
  induction lines generalizing count stack out with
  | nil =>
    cases h
    rfl
  | cons line rest ih =>
    obtain ⟨after, output, hafter, hrest, rfl⟩ := run_plain_cons_iff.mp h
    have hline : stack.isActive = true → NoTokenBehindTag k line :=
      hclear [] line rest stack [] rfl rfl
    have htail := ih (fun before line' after' mid output' hsplit hbefore =>
      hclear (line :: before) line' after' mid _ (by rw [← hsplit]; rfl)
        (run_plain_cons_iff.mpr ⟨after, output', hafter, hbefore, rfl⟩)) hrest
    -- The kept line opens the same blocks and is kept as it is.
    refine run_plain_cons_iff.mpr ⟨after, output, ?_, htail, ?_⟩
    · rw [(sameReading_keptLine hvalid hcompact hline).advance_eq, hafter]
    · rw [keptLine_keptLine hvalid hcompact hline]

/-- **A second conversion changes nothing**, provided that no tag in an active place hides
a token. -/
theorem convert_convert {keywords : KeywordRegistry} {file : Option Text} {vars : Variables}
    {lines out : List Text} (hvalid : (keywords.forFile file).validate = .ok ())
    (hcompact : (keywords.forFile file).Compact)
    (hclear : ∀ before line after, before ++ line :: after = lines →
      ActiveAfter (plain keywords vars) file before →
        NoTokenBehindTag (keywords.forFile file) line)
    (h : (plain keywords vars).convert file lines = .ok out) :
    (plain keywords vars).convert file out = .ok out := by
  refine convert_eq_ok_iff.mpr (run_run hvalid hcompact ?_ (convert_eq_ok_iff.mp h))
  intro before line after mid output hsplit hbefore hactive
  exact hclear before line after hsplit ⟨mid, output, hbefore, hactive⟩

/-- A block with tagged, misaligned and blank lines in both branches. -/
def tagsInBranches : List Text :=
  [Text.ofString "  //#if a", Text.ofString "//$$   one", Text.ofString "  two", Text.ofString "",
    Text.ofString "  //#else", Text.ofString "  //$$ three", Text.ofString "\t four",
    Text.ofString "five", Text.ofString " ", Text.ofString "  //#endif"]

/-- These lines when `a` is defined. -/
def firstBranchOn : List Text :=
  [Text.ofString "  //#if a", Text.ofString "  one", Text.ofString "  two", Text.ofString "",
    Text.ofString "  //#else", Text.ofString "  //$$ three", Text.ofString "  //$$ four",
    Text.ofString "five", Text.ofString "  //$$", Text.ofString "  //#endif"]

theorem convert_firstBranchOn :
    (plain Dictionary.empty (Dictionary.ofList [(['a'], [])])).convert none tagsInBranches =
        .ok firstBranchOn ∧
      (plain Dictionary.empty (Dictionary.ofList [(['a'], [])])).convert none firstBranchOn =
        .ok firstBranchOn := by
  have hfirst : (plain Dictionary.empty (Dictionary.ofList [(['a'], [])])).convert none
      tagsInBranches = .ok firstBranchOn := by decide +kernel
  have hclear : ∀ line ∈ tagsInBranches, ∀ role ∈ Role.all,
      Text.startsWith Keywords.standard.evalToken (Text.trim line) = true →
        Text.startsWith (Keywords.standard.token role)
          (Text.trim (Tag.uncomment Keywords.standard.evalToken line)) = false := by
    decide +kernel
  refine ⟨hfirst, convert_convert Keywords.validate_standard Keywords.compact_standard ?_ hfirst⟩
  intro before line after hsplit _ _ hstarts role
  exact hclear line (by rw [← hsplit]; simp) role (by cases role <;> decide) hstarts

end Conversion

end CommentSwitch
