import CommentSwitch.Proofs.Conversion.Idempotence
import CommentSwitch.Proofs.Conversion.Stripping

/-!
# Stripped files

What stripping leaves of a file holds no directive and no tag, so nothing in it depends on
variables any more: every further conversion with the same keywords leaves it as it is.

- `Conversion.Tokenless`: lines that a conversion has nothing to do with
- `Conversion.run_of_tokenless`: a run over such lines puts them out as they are
- `Conversion.tokenless_of_run_strip`: a run that strips puts out such lines only
- `Conversion.convert_stripped`: a stripped file is converted to itself
-/

namespace CommentSwitch

namespace Conversion

open Nesting

/-! ## §1 Lines without tokens -/

/-- No token starts the line once it has been trimmed. -/
def Tokenless (k : Keywords) (line : Text) : Prop :=
  ∀ role, Text.startsWith (k.token role) (Text.trim line) = false

section Line

variable {k : Keywords} {stack : BlockStack} {line : Text}

theorem Tokenless.classify_eq_code (h : Tokenless k line) :
    k.classify (Text.trim line) = .code :=
  Keywords.classify_eq_code_iff.mpr fun role _ => h role

/-- A line of code has no token unless it has a tag. -/
theorem tokenless_of_untagged (hcode : k.classify (Text.trim line) = .code)
    (hplain : Text.startsWith k.evalToken (Text.trim line) = false) : Tokenless k line := by
  intro role
  by_cases hrole : role = .evalRole
  · subst hrole
    exact hplain
  · exact Keywords.classify_eq_code_iff.mp hcode role hrole

/-- Once its tag has been taken away a line of code has no token. -/
theorem tokenless_restore (hcode : k.classify (Text.trim line) = .code)
    (hclear : NoTokenBehindTag k line) : Tokenless k (Tag.restore k.evalToken line) := by
  cases hstarts : Text.startsWith k.evalToken (Text.trim line) with
  | false =>
    rw [Tag.restore_of_untagged hstarts]
    exact tokenless_of_untagged hcode hstarts
  | true =>
    rw [Tag.restore, if_pos hstarts]
    exact hclear hcode hstarts

/-- In an active place a line without tokens is put out as it is, when stripping as well. -/
theorem outputLine_of_tokenless (h : Tokenless k line) (hactive : stack.isActive = true)
    (strip : Bool) : outputLine k strip stack line = some line := by
  have hcode := h.classify_eq_code
  have hkept : keptLine k stack line = line := by
    rw [keptLine_of_active hcode hactive]
    exact Tag.restore_of_untagged (h .evalRole)
  rw [outputLine_eq, hkept, keeps, hcode, hactive]
  simp

/-- What is put out when stripping has no token. -/
theorem tokenless_of_outputLine {kept : Text} (h : outputLine k true stack line = some kept)
    (hclear : stack.isActive = true → NoTokenBehindTag k line) : Tokenless k kept := by
  rw [outputLine_eq] at h
  split at h
  · next hkeeps =>
    -- Only lines of code in active places are put out.
    obtain ⟨hcode, hactive⟩ : k.classify (Text.trim line) = .code ∧ stack.isActive = true := by
      simpa [keeps] using hkeeps
    cases h
    rw [keptLine_of_active hcode hactive]
    exact tokenless_restore hcode (hclear hactive)
  · cases h

end Line

/-! ## §2 Runs -/

section Run

variable {vars : Variables} {k : Keywords} {strip : Bool} {file : Option Text}

/-- A run over lines without tokens opens no block and puts the lines out as they are. -/
theorem run_of_tokenless {lines : List Text} (h : ∀ line ∈ lines, Tokenless k line)
    {stack : BlockStack} (hactive : stack.isActive = true) (count : Nat) :
    run vars k strip file count stack lines = .ok (stack, lines) := by
  induction lines generalizing count with
  | nil => rfl
  | cons line rest ih =>
    obtain ⟨hline, hrest⟩ := List.forall_mem_cons.mp h
    apply run_cons_eq_ok_iff.mpr
    refine ⟨stack, rest, ?_, ih hrest (count + 1), ?_⟩
    · rw [hline.classify_eq_code]
      rfl
    · rw [outputLine_of_tokenless hline hactive]
      rfl

/-- No tag on a line of code in a selected place hides a token. -/
def NoTokenBehindTags (vars : Variables) (k : Keywords) (lines : List Text) : Prop :=
  ∀ before line after, lines = before ++ line :: after → SelectedPlace vars k before →
    NoTokenBehindTag k line

theorem noTokenBehindTags_concat_iff {lines : List Text} {line : Text} :
    NoTokenBehindTags vars k (lines ++ [line]) ↔
      NoTokenBehindTags vars k lines ∧ (SelectedPlace vars k lines → NoTokenBehindTag k line) :=
  forall_split_concat_iff

/-- A run that strips puts out lines without tokens only. -/
theorem tokenless_of_run_strip {lines out : List Text} {stack : BlockStack}
    (hclear : NoTokenBehindTags vars k lines)
    (h : run vars k true file 0 [] lines = .ok (stack, out)) : ∀ line ∈ out, Tokenless k line := by
  induction lines using List.reverseRecOn generalizing stack out with
  | nil =>
    cases h
    intro line hline
    cases hline
  | append_singleton lines line ih =>
    obtain ⟨mid, output, hlines, -, rfl⟩ := run_concat_eq_ok_iff.mp h
    obtain ⟨hbefore, hlast⟩ := noTokenBehindTags_concat_iff.mp hclear
    intro kept hkept
    rcases List.mem_append.mp hkept with hkept | hkept
    · exact ih hbefore hlines kept hkept
    · apply tokenless_of_outputLine (Option.mem_toList.mp hkept)
      intro hactive
      exact hlast ((isActive_iff hlines).mp hactive)

end Run

/-! ## §3 Conversions -/

/-- **A stripped file is final**: whatever the variables, stripping or not, a conversion with the
same keywords leaves it as it is, provided that no tag in a selected place hid a token. -/
theorem convert_stripped {c : Conversion} {file : Option Text} {lines out : List Text}
    (hstrip : c.strip = true)
    (hclear : NoTokenBehindTags c.vars (c.keywords.forFile file) lines)
    (h : c.convert file lines = .ok out) {c' : Conversion} {file' : Option Text}
    (hkeywords : c'.keywords.forFile file' = c.keywords.forFile file) :
    c'.convert file' out = .ok out := by
  have hrun := convert_eq_ok_iff.mp h
  rw [hstrip] at hrun
  have htokenless := tokenless_of_run_strip hclear hrun
  apply convert_eq_ok_iff.mpr
  rw [hkeywords]
  exact run_of_tokenless htokenless rfl 0

/-- Tokens of which the first hides the second, and the last starts all others. -/
def overlappingTokens : Keywords where
  ifToken := Text.ofString "#if"
  elseifToken := Text.ofString "#ifelse"
  elseToken := Text.ofString "#else"
  endifToken := Text.ofString "#endif"
  evalToken := Text.ofString "#"

/-- Files with these tokens. -/
def overlapping : KeywordRegistry := Dictionary.ofList [("txt".toList, overlappingTokens)]

/-- A block with a tag in either branch; there is a token behind the second one. -/
def tokenBehindTag : List Text :=
  ["#if a".toList, " #  one".toList, "#else".toList] ++ ["# #if b".toList] ++
    ["#endif".toList] ++ ["two".toList]

/-- What is left of this file if `a` is defined stays as it is when it is not. -/
theorem convert_stripped_tokenBehindTag :
    overlappingTokens.validate ≠ .ok () ∧
      convert ⟨.ofList [(['a'], [])], overlapping, true⟩ (some "f.txt".toList) tokenBehindTag =
        .ok ["  one".toList, "two".toList] ∧
      convert ⟨.empty, overlapping, false⟩ (some "f.txt".toList)
          ["  one".toList, "two".toList] = .ok ["  one".toList, "two".toList] := by
  have hkeywords : overlapping.forFile (some "f.txt".toList) = overlappingTokens := by
    decide +kernel
  have hstripped : convert ⟨.ofList [(['a'], [])], overlapping, true⟩ (some "f.txt".toList)
      tokenBehindTag = .ok ["  one".toList, "two".toList] := by decide +kernel
  have hbefore : run (.ofList [(['a'], [])]) overlappingTokens true none 0 []
      ["#if a".toList, " #  one".toList, "#else".toList] =
        .ok ([⟨false, true, true, 0⟩], ["  one".toList]) := by decide +kernel
  have htags : ∀ line ∈ ["#if a".toList, " #  one".toList, "#else".toList, "#endif".toList,
      "two".toList], NoTokenBehindTag overlappingTokens line := by
    have hroles : ∀ line ∈ ["#if a".toList, " #  one".toList, "#else".toList, "#endif".toList,
        "two".toList], ∀ role ∈ Role.all,
        overlappingTokens.classify (Text.trim line) = .code →
          Text.startsWith ['#'] (Text.trim line) = true →
            Text.startsWith (overlappingTokens.token role)
              (Text.trim (Tag.uncomment ['#'] line)) = false := by decide +kernel
    intro line hline hcode hstarts role
    exact hroles line hline role (by cases role <;> decide) hcode hstarts
  have hclear : NoTokenBehindTags (.ofList [(['a'], [])]) overlappingTokens tokenBehindTag := by
    refine noTokenBehindTags_concat_iff.mpr ⟨noTokenBehindTags_concat_iff.mpr
      ⟨noTokenBehindTags_concat_iff.mpr ⟨?first, ?second⟩, ?closing⟩, ?last⟩
    case first =>
      intro before line after hsplit _
      have hline : line ∈ before ++ line :: after := by simp
      rw [← hsplit] at hline
      exact htags line (List.mem_append_left ["#endif".toList, "two".toList] hline)
    case second =>
      -- The second branch is not selected.
      intro hselected
      cases (isActive_iff hbefore).mpr hselected
    case closing => exact fun _ => htags _ (by simp)
    case last => exact fun _ => htags _ (by simp)
  refine ⟨by decide, hstripped, ?_⟩
  apply convert_stripped rfl _ hstripped rfl
  rw [hkeywords]
  exact hclear

end Conversion

end CommentSwitch
