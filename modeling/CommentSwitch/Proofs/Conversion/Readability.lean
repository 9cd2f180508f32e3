import CommentSwitch.Conversion.Convert
import CommentSwitch.Proofs.Conversion.TaggedLine
import CommentSwitch.Proofs.Text.Cutting

/-!
# Tags that stay readable

A line that has been tagged is to be found again by the next pass: as a line of code, with its
tag in front.  A valid set of tokens alone does not see to that, since a tagged line is trimmed
before it is read, and what stands behind the tag may complete a longer token.

- `Conversion.Readable`: what later passes make of a line that has been tagged
- `Keywords.Taggable`: the eval token stands free of blank, and no directive token goes on from
  it
- `Conversion.keepsTags_iff_taggable`: valid sets whose tags stay readable are those
-/

namespace CommentSwitch

namespace Keywords

/-! ## §1 Sets of tokens -/

/-- The `eval` token has no blank at its ends, and no directive token begins with it and a
space; unless the rest of that token brings the `eval` token once more, for then a line that
starts like the rest is not tagged at all. -/
structure Taggable (k : Keywords) : Prop where
  trim_evalToken : Text.trim k.evalToken = k.evalToken
  apart : ∀ role u, role ≠ .evalRole → k.token role = k.evalToken ++ ' ' :: u →
    Text.startsWith k.evalToken (Text.trimStart u) = true

end Keywords

namespace Text

/-- A trimmed text that starts another one starts what that is trimmed to at its end. -/
theorem prefix_trimEnd {s t : Text} (hs : trim s = s) (h : s <+: t) : s <+: trimEnd t := by
  obtain ⟨rest, rfl⟩ := h
  rw [trimEnd_append_of_trimmed hs]
  exact List.prefix_append s _

theorem trimEnd_concat {t : Text} {c : Char} (hc : isBlank c = false) :
    trimEnd (t ++ [c]) = t ++ [c] := by
  simp [trimEnd, hc]

theorem trimStart_of_isBlankLine {t : Text} (h : isBlankLine t = true) : trimStart t = [] :=
  dropWhile_eq_nil_iff_all.mpr (List.all_eq_true.mp h)

/-- The first part of a line, trimmed at its start, starts the trimmed line. -/
theorem trimStart_prefix {s t : Text} (h : s <+: t) (hs : isBlankLine s = false) :
    trimStart s <+: trimStart t := by
  obtain ⟨rest, rfl⟩ := h
  rw [trimStart_append hs]
  exact List.prefix_append _ _

end Text

namespace Keywords

/-! ## §2 Tagged lines of code -/

section Taggable

variable {k : Keywords} (h : k.Taggable) (hvalid : k.validate = .ok ())

include h hvalid

theorem Taggable.proper : Tag.Proper k.evalToken :=
  ⟨token_ne_nil hvalid .evalRole, h.trim_evalToken⟩

/-- A line that does not start with the `eval` token is code behind a tag. -/
theorem Taggable.classify_tagged {line : Text} {d : Nat} (hd : d ≤ Text.indentation line)
    (hplain : Text.startsWith k.evalToken (Text.trim line) = false) :
    k.classify (Text.trim (Tag.tagged k.evalToken d (' ' :: line.drop d))) = .code := by
  have htag := h.proper hvalid
  refine classify_eq_code_iff.mpr fun role hrole => ?_
  rw [Tag.trim_tagged htag, Bool.eq_false_iff]
  intro hstarts
  have hpre := Text.startsWith_iff.mp hstarts
  have hnot := startsWith_evalToken hvalid hrole
  -- The token does not start the `eval` token, so it goes on from there.
  rcases List.prefix_or_prefix_of_prefix hpre (List.prefix_append k.evalToken _) with
    hshort | ⟨r, hr⟩
  · rw [Text.startsWith_iff.mpr hshort] at hnot
    cases hnot
  rw [← hr, List.prefix_append_right_inj] at hpre
  have hrest : r <+: ' ' :: line.drop d := hpre.trans (List.rdropWhile_prefix Text.isBlank _)
  rcases List.prefix_cons_iff.mp hrest with rfl | ⟨u, rfl, hu⟩
  · rw [List.append_nil] at hr
    rw [← hr, Text.startsWith_iff.mpr (List.prefix_refl _)] at hnot
    cases hnot
  -- What the token adds brings the `eval` token again, which the line would then start with.
  have hagain := Text.startsWith_iff.mp (h.apart role u hrole hr.symm)
  have hu' : Text.isBlankLine u = false := by
    rw [← Bool.not_eq_true]
    intro hblank
    rw [Text.trimStart_of_isBlankLine hblank] at hagain
    exact htag.ne_nil (List.prefix_nil.mp hagain)
  have hline : Text.startsWith k.evalToken (Text.trim (line.drop d)) = true := by
    apply Text.startsWith_iff.mpr
    exact Text.prefix_trimEnd h.trim_evalToken (hagain.trans (Text.trimStart_prefix hu hu'))
  rw [Text.trim_drop hd, hplain] at hline
  cases hline

end Taggable

end Keywords

namespace Conversion

/-! ## §3 What later passes make of a tagged line -/

/-- What has become of a line is code with a tag in front.  A further pass leaves it as it is
where it is not selected, and takes the tag away where it is. -/
structure Readable (k : Keywords) (line out : Text) : Prop where
  code : k.classify (Text.trim out) = .code
  tagged : Text.startsWith k.evalToken (Text.trim out) = true
  stays : ∀ stack : BlockStack, stack.isActive = false → outputLine k false stack out = some out
  returns : ∀ (stack : BlockStack) (strip : Bool), stack.isActive = true →
    ∃ back, outputLine k strip stack out = some back ∧ Text.trim back = Text.trim line

/-- Every line that is changed because it is not selected stays readable. -/
def KeepsTags (k : Keywords) : Prop :=
  ∀ (stack : BlockStack) (line out : Text), stack.isActive = false →
    codeLine k false stack line = some out → out ≠ line → Readable k line out

section Tagged

variable {k : Keywords} {line out : Text}

/-- A line of code with a tag in front is not tagged again. -/
theorem outputLine_of_tagged (htag : k.evalToken ≠ []) (hcode : k.classify (Text.trim out) = .code)
    (hstarts : Text.startsWith k.evalToken (Text.trim out) = true) {stack : BlockStack}
    (hinactive : stack.isActive = false) : outputLine k false stack out = some out := by
  have htext : Text.trim out ≠ [] := by
    intro hnil
    rw [hnil] at hstarts
    exact htag (List.prefix_nil.mp (Text.startsWith_iff.mp hstarts))
  simp [outputLine, hcode, codeLine, hinactive, Tag.comment_of_startsWith htext hstarts]

/-- A line that is tagged as code comes back when it is selected. -/
theorem readable_tagged (htag : Tag.Proper k.evalToken) {d : Nat} {body : Text}
    (hcode : k.classify (Text.trim (Tag.tagged k.evalToken d body)) = .code)
    (hbody : Text.trim body = Text.trim line) :
    Readable k line (Tag.tagged k.evalToken d body) := by
  have hstarts := Tag.startsWith_trim_tagged htag d body
  refine ⟨hcode, hstarts, fun stack hinactive => ?_, fun stack strip hactive => ?_⟩
  · exact outputLine_of_tagged htag.ne_nil hcode hstarts hinactive
  · refine ⟨Tag.uncomment k.evalToken (Tag.tagged k.evalToken d body), ?_, ?_⟩
    · simp [outputLine, hcode, codeLine, hactive, hstarts]
    · rw [Tag.trim_uncomment, Tag.trimStart_tagged htag, List.drop_left, hbody]

end Tagged

/-! ## §4 Which sets keep their tags readable -/

section Sets

variable {k : Keywords} (hvalid : k.validate = .ok ())

include hvalid

theorem keepsTags_of_taggable (h : k.Taggable) : KeepsTags k := by
  intro stack line out hinactive hout hne
  have htag := h.proper hvalid
  have hform : Tag.comment k.evalToken stack.indent line = out := by
    simpa [codeLine, hinactive] using hout
  rcases Tag.comment_cases k.evalToken stack.indent line with
    ⟨hblank, hcomment⟩ | ⟨-, hplain, hd, hcomment⟩ | ⟨-, -, hcomment⟩
  · -- A blank line becomes a bare tag.
    rw [← hform, hcomment]
    refine readable_tagged htag ?_ (by rw [hblank]; rfl)
    rw [Tag.trim_tagged htag]
    refine Keywords.classify_eq_code_iff.mpr fun role hrole => ?_
    simpa [Text.trimEnd] using Keywords.startsWith_evalToken hvalid hrole
  · rw [← hform, hcomment]
    refine readable_tagged htag (h.classify_tagged hvalid hd hplain) ?_
    rw [Text.trim_cons_space, Text.trim_drop hd]
  · exact absurd (hform.symm.trans hcomment) hne

/-- Tags are put in front of empty lines too, where trimming reaches their ends. -/
theorem KeepsTags.trim_evalToken (h : KeepsTags k) : Text.trim k.evalToken = k.evalToken := by
  have hne : k.evalToken ≠ [] := Keywords.token_ne_nil hvalid .evalRole
  have hread : Readable k [] k.evalToken := h [.opened false 0] [] k.evalToken rfl rfl hne
  have hpre := Text.startsWith_iff.mp hread.tagged
  -- A text that starts what it is trimmed to has nothing to trim.
  have hstart : Text.trim k.evalToken <+: Text.trimStart k.evalToken :=
    Text.trim_prefix_trimStart k.evalToken
  have hsuffix : Text.trimStart k.evalToken <:+ k.evalToken := List.dropWhile_suffix Text.isBlank
  have hlength := hstart.length_le.trans hsuffix.length_le
  exact (hpre.eq_of_length_le hlength).symm

/-- A line that starts like the rest of a directive token would be read as that directive. -/
theorem KeepsTags.apart (h : KeepsTags k) {role : Role} {u : Text} (hrole : role ≠ .evalRole)
    (htoken : k.token role = k.evalToken ++ ' ' :: u) :
    Text.startsWith k.evalToken (Text.trimStart u) = true := by
  rw [← Bool.not_eq_false]
  intro hnot
  -- One of two letters makes no `eval` token of what stands in front of it.
  obtain ⟨c, hc, hother⟩ : ∃ c, Text.isBlank c = false ∧ k.evalToken ≠ Text.trimStart u ++ [c] := by
    by_cases ha : k.evalToken = Text.trimStart u ++ ['a']
    · refine ⟨'b', by decide, ?_⟩
      rw [ha]
      simp
    · exact ⟨'a', by decide, ha⟩
  have htrim : Text.trim (u ++ [c]) = Text.trimStart u ++ [c] := by
    have hstart : Text.trimStart (u ++ [c]) = Text.trimStart u ++ [c] := by
      cases hblank : Text.isBlankLine u with
      | true =>
        rw [Text.trimStart_append_of_blank (List.all_eq_true.mp hblank),
          Text.trimStart_of_isBlankLine hblank]
        simp [Text.trimStart, hc]
      | false => exact Text.trimStart_append hblank
    rw [Text.trim, hstart, Text.trimEnd_concat hc]
  have hplain : Text.startsWith k.evalToken (Text.trim (u ++ [c])) = false := by
    rw [← Bool.not_eq_true, htrim, Text.startsWith_iff, List.prefix_concat_iff]
    rintro (heq | hpre)
    · exact hother heq
    · rw [Text.startsWith_iff.mpr hpre] at hnot
      cases hnot
  have hform : Tag.comment k.evalToken 0 (u ++ [c]) = k.token role ++ [c] := by
    rw [Tag.comment_of_aligned (by simp [htrim]) hplain (Nat.zero_le _), htoken]
    simp [Tag.tagged, Text.spaces]
  have hne : k.token role ++ [c] ≠ u ++ [c] := by
    rw [htoken]
    intro heq
    have hlength := congrArg List.length heq
    simp only [List.length_append, List.length_cons] at hlength
    omega
  have hread : Readable k (u ++ [c]) (k.token role ++ [c]) :=
    h [.opened false 0] (u ++ [c]) _ rfl (congrArg some hform) hne
  have hproper : Tag.Proper k.evalToken :=
    ⟨Keywords.token_ne_nil hvalid .evalRole, KeepsTags.trim_evalToken hvalid h⟩
  have htrimmed : Text.trim (k.token role ++ [c]) = k.token role ++ [c] := by
    rw [Text.trim, htoken, List.append_assoc,
      Text.trimStart_append_of_trimmed hproper.trim_eq hproper.ne_nil, ← List.append_assoc,
      Text.trimEnd_concat hc]
  have hcode := Keywords.classify_eq_code_iff.mp hread.code role hrole
  rw [htrimmed, Text.startsWith_iff.mpr (List.prefix_append _ _)] at hcode
  cases hcode

/-- **Valid sets whose tags stay readable** are those whose `eval` token stands free of blank and
is not continued, behind a space, by a directive token. -/
theorem keepsTags_iff_taggable : KeepsTags k ↔ k.Taggable := by
  constructor
  · intro h
    exact ⟨KeepsTags.trim_evalToken hvalid h,
      fun role u hrole htoken => KeepsTags.apart hvalid h hrole htoken⟩
  · exact keepsTags_of_taggable hvalid

end Sets

/-- Tokens with spaces within them, which are valid and keep their tags readable. -/
def spacedTokens : Keywords where
  ifToken := Text.ofString "# if"
  elseifToken := Text.ofString "# elseif"
  elseToken := Text.ofString "# else"
  endifToken := Text.ofString "# endif"
  evalToken := Text.ofString "# off:"

theorem keepsTags_spacedTokens : spacedTokens.validate = .ok () ∧ KeepsTags spacedTokens := by
  have hvalid : spacedTokens.validate = .ok () := by decide
  have happart : ∀ role u, role ≠ .evalRole →
      spacedTokens.token role ≠ spacedTokens.evalToken ++ ' ' :: u := by
    intro role u hrole heq
    have hpre : spacedTokens.evalToken.isPrefixOf (spacedTokens.token role) = true := by
      rw [heq]
      simp
    revert hpre
    cases role <;> first | exact absurd rfl hrole | decide
  refine ⟨hvalid, (keepsTags_iff_taggable hvalid).mpr ⟨by decide, ?_⟩⟩
  intro role u hrole heq
  exact absurd heq (happart role u hrole)

/-- Tokens of which the `if` token goes on from the `eval` token; they are valid. -/
def openingBehindTag : Keywords where
  ifToken := Text.ofString "//$$ if"
  elseifToken := Text.ofString "//#elseif"
  elseToken := Text.ofString "//#else"
  endifToken := Text.ofString "//#endif"
  evalToken := Text.ofString "//$$"

/-- A line that has been tagged opens a block in the next pass. -/
theorem not_keepsTags_openingBehindTag :
    openingBehindTag.validate = .ok () ∧ ¬ KeepsTags openingBehindTag := by
  refine ⟨by decide, fun h => ?_⟩
  have hread : Readable openingBehindTag (Text.ofString "if b") (Text.ofString "//$$ if b") :=
    h [.opened false 0] _ _ rfl (by decide) (by decide)
  have hopening : openingBehindTag.classify (Text.trim (Text.ofString "//$$ if b")) ≠ .code := by
    decide
  exact hopening hread.code

end Conversion

end CommentSwitch
