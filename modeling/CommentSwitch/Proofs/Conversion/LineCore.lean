import CommentSwitch.Proofs.Conversion.Passes

/-!
# The core of a line

Converting changes a line in its indentation, in the blank around it and in its tags
only.  What is left when all these are taken away is the core of the line.

- `Tag.core_tagged`: a tag does not belong to the core
- `Conversion.core_keptLine`: one line keeps its core, whatever blocks are open
- `Conversion.map_core_passes`: all lines keep their cores over any number of passes
-/

namespace CommentSwitch

namespace Tag

/-! ## §1 Cores -/

/-- Takes away the tags at the start of a trimmed text, with the blank behind each.  An
empty tag takes nothing away. -/
def stripTags (tag t : Text) : Text :=
  if tag ≠ [] ∧ Text.startsWith tag t = true then stripTags tag (Text.trim (t.drop tag.length))
  else t
termination_by t.length
decreasing_by
  rename_i h
  obtain ⟨rest, rfl⟩ := Text.startsWith_iff.mp h.2
  have hpos : 0 < tag.length := List.length_pos_iff.mpr h.1
  have htrim := Condition.length_trim_le rest
  simp only [List.drop_left, List.length_append]
  omega

/-- What a line says: the trimmed line without its tags. -/
def core (tag line : Text) : Text := stripTags tag (Text.trim line)

theorem core_eq_of_trim_eq {tag line line' : Text} (h : Text.trim line = Text.trim line') :
    core tag line = core tag line' := by
  rw [core, h, core]

/-- The tag at the start of a line does not belong to its core. -/
theorem core_of_trimStart_eq {tag line rest : Text} (htag : Proper tag)
    (h : Text.trimStart line = tag ++ rest) : core tag line = core tag rest := by
  have htrim : Text.trim line = tag ++ Text.trimEnd rest := by
    rw [Text.trim, h, Text.trimEnd_append_of_trimmed htag.trim_eq]
  have hstarts : Text.startsWith tag (tag ++ Text.trimEnd rest) = true :=
    Text.startsWith_iff.mpr (List.prefix_append _ _)
  calc core tag line = stripTags tag (tag ++ Text.trimEnd rest) := by rw [core, htrim]
    _ = stripTags tag (Text.trim (Text.trimEnd rest)) := by
      rw [stripTags, if_pos ⟨htag.ne_nil, hstarts⟩, List.drop_left]
    _ = core tag rest := by rw [Text.trim_trimEnd, core]

theorem core_tagged {tag : Text} (htag : Proper tag) (d : Nat) (body : Text) :
    core tag (tagged tag d body) = core tag body :=
  core_of_trimStart_eq htag (trimStart_tagged htag d body)

theorem core_restore {tag : Text} (htag : Proper tag) (line : Text) :
    core tag (restore tag line) = core tag line := by
  rw [restore]
  split
  · next hstarts =>
    have hprefix : tag <+: Text.trimStart line :=
      (Text.startsWith_iff.mp hstarts).trans (Text.trim_prefix_trimStart line)
    obtain ⟨rest, hrest⟩ := hprefix
    have htrim : Text.trim (uncomment tag line) = Text.trim rest := by
      rw [trim_uncomment, ← hrest, List.drop_left]
    rw [core_of_trimStart_eq htag hrest.symm]
    exact core_eq_of_trim_eq htrim
  · rfl

theorem core_comment {tag : Text} (htag : Proper tag) (d : Nat) (line : Text) :
    core tag (comment tag d line) = core tag line := by
  rcases comment_cases tag d line with ⟨hblank, hform⟩ | ⟨-, -, hd, hform⟩ | ⟨-, -, hform⟩
  · rw [hform, core_tagged htag]
    exact core_eq_of_trim_eq (by rw [hblank]; rfl)
  · -- The characters that the tag replaces are blank, so they are not in the core.
    have htrim : Text.trim (' ' :: line.drop d) = Text.trim line := by
      rw [Text.trim_cons_space, Text.trim_drop hd]
    rw [hform, core_tagged htag]
    exact core_eq_of_trim_eq htrim
  · rw [hform]

end Tag

/-! ## §2 Cores over runs -/

namespace Conversion

/-- One line keeps its core, whatever blocks are open. -/
theorem core_keptLine {k : Keywords} (htag : Tag.Proper k.evalToken) (stack : BlockStack)
    (line : Text) : Tag.core k.evalToken (keptLine k stack line) = Tag.core k.evalToken line := by
  rcases keptLine_cases k stack line with ⟨-, hkept⟩ | ⟨-, -, hkept⟩ | ⟨-, -, hkept⟩
  · rw [hkept]
  · rw [hkept, Tag.core_restore htag]
  · rw [hkept, Tag.core_comment htag]

theorem map_core_run {vars : Variables} {k : Keywords} {file : Option Text}
    (htag : Tag.Proper k.evalToken) {count : Nat} {stack last : BlockStack}
    {lines out : List Text} (h : run vars k false file count stack lines = .ok (last, out)) :
    out.map (Tag.core k.evalToken) = lines.map (Tag.core k.evalToken) := by
  induction lines generalizing count stack out with
  | nil =>
    cases h
    rfl
  | cons line rest ih =>
    obtain ⟨after, output, -, hrest, rfl⟩ := run_plain_cons_iff.mp h
    rw [List.map_cons, List.map_cons, core_keptLine htag, ih hrest]

/-- **No text is lost**: over any number of passes, each under variables of its own, every
line keeps its place and its core. -/
theorem map_core_passes {keywords : KeywordRegistry} {file : Option Text}
    (htag : Tag.Proper (keywords.forFile file).evalToken) {sets : List Variables}
    {lines out : List Text} (h : passes keywords file lines sets = .ok out) :
    out.map (Tag.core (keywords.forFile file).evalToken) =
      lines.map (Tag.core (keywords.forFile file).evalToken) := by
  refine passes_induction (P := fun ls => ls.map _ = lines.map _) ?_ h rfl
  intro vars mid next hnext hmid
  exact (map_core_run htag (convert_eq_ok_iff.mp hnext)).trans hmid

/-- Lines with a tag behind a tag, and with tags in front of directives. -/
def nestedTags : List Text :=
  [Text.ofString "//$$ //$$ one", Text.ofString "//$$ //#if a", Text.ofString "\ttwo ",
    Text.ofString "", Text.ofString "//$$ //#endif"]

/-- What two passes make of these lines; the second one reads the directives. -/
def nestedTagsTwice : List Text :=
  [Text.ofString "one", Text.ofString "//#if a", Text.ofString "//$$ \ttwo ",
    Text.ofString "//$$", Text.ofString "//#endif"]

theorem map_core_nestedTags :
    passes Dictionary.empty none nestedTags [Dictionary.empty, Dictionary.empty] =
        .ok nestedTagsTwice ∧
      nestedTagsTwice.map (Tag.core Keywords.standard.evalToken) =
        nestedTags.map (Tag.core Keywords.standard.evalToken) := by
  have hpasses : passes Dictionary.empty none nestedTags [Dictionary.empty, Dictionary.empty] =
      .ok nestedTagsTwice := by decide +kernel
  have htag : Tag.Proper (KeywordRegistry.forFile Dictionary.empty none).evalToken :=
    Keywords.proper_evalToken Keywords.validate_standard Keywords.compact_standard
  exact ⟨hpasses, map_core_passes htag hpasses⟩

end Conversion

end CommentSwitch
