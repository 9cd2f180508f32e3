import CommentSwitch.Proofs.Conversion.Run
import CommentSwitch.Proofs.Keywords.Lookup
import CommentSwitch.Proofs.Text.Trimming

/-!
# Conversions that count in bytes

Where a tag ends, where a branch is indented and whether a file name has an extension can be told
by offsets in bytes, at which lines and names are then cut.  An offset is computed from lengths and
from characters, and the checks in front of it look at other texts than the one that is cut.  Still
it is always in range, whatever the tokens, the lines and the names are: nothing else is found by
counting in bytes than by going through the characters, and nothing fails.

- `InBytes.uncomment_eq`: taking a tag away
- `InBytes.comment_eq`: putting a tag in
- `InBytes.hasExtension_eq`: extensions of a file name
- `InBytes.convertFrom_eq`: the conversion of lines
- `InBytes.no_fault`: all offsets are in range
-/

namespace CommentSwitch

namespace InBytes

open Text (OffsetFault InRange byteLength byteDifference charOffset? sliceTo sliceFrom)

/-! ## §1 Tags -/

/-- Takes away the tag behind the leading blank, and one space after it. -/
def uncomment (tag line : Text) : Except OffsetFault Text := do
  let start ← byteDifference (byteLength line) (byteLength (Text.trimStart line))
  let rest ← sliceFrom line (start + byteLength tag)
  let blank ← sliceTo line start
  return blank ++ Tag.dropSpace rest

/-- Drops a number of characters at the start. -/
def skipChars (line : Text) (count : Nat) : Except OffsetFault Text :=
  match charOffset? line count with
  | some i => sliceFrom line i
  -- The line has no more characters than that.
  | none => .ok []

/-- Switches a line off within a branch that is indented by `indent`. -/
def comment (tag : Text) (indent : Nat) (line : Text) : Except OffsetFault Text :=
  let trimmed := Text.trim line
  if trimmed.isEmpty then .ok (Text.spaces indent ++ tag)
  else if !Text.startsWith tag trimmed && decide (indent ≤ Text.indentation line) then do
    -- The indentation is counted in characters, whatever bytes they take.
    let rest ← skipChars line indent
    return Text.spaces indent ++ tag ++ ' ' :: rest
  else .ok line

section Tags

variable {tag line : Text}

theorem byteLength_eq_add (line : Text) :
    byteLength line = byteLength (Text.leadingBlank line) + byteLength (Text.trimStart line) := by
  rw [← Text.byteLength_append, Text.leadingBlank_append_trimStart]

/-- The check for a tag looks at the trimmed line, but the tag stands in the line as well. -/
theorem exists_rest_of_startsWith (h : Text.startsWith tag (Text.trim line) = true) :
    ∃ rest, Text.trimStart line = tag ++ rest ∧ line = Text.leadingBlank line ++ tag ++ rest := by
  have hprefix : tag <+: Text.trimStart line :=
    (Text.startsWith_iff.mp h).trans (Text.trim_prefix_trimStart line)
  obtain ⟨rest, hrest⟩ := hprefix
  refine ⟨rest, hrest.symm, ?_⟩
  rw [List.append_assoc, hrest, Text.leadingBlank_append_trimStart]

/-- The check for a tag is enough. -/
theorem uncomment_eq (h : Text.startsWith tag (Text.trim line) = true) :
    uncomment tag line = .ok (Tag.uncomment tag line) := by
  obtain ⟨rest, htrim, hline⟩ := exists_rest_of_startsWith h
  have hstart : byteDifference (byteLength line) (byteLength (Text.trimStart line)) =
      .ok (byteLength (Text.leadingBlank line)) := by
    rw [byteLength_eq_add, Text.byteDifference_add]
  have hrest : sliceFrom line (byteLength (Text.leadingBlank line) + byteLength tag) =
      .ok rest := by
    have hcut := Text.sliceFrom_append (Text.leadingBlank line ++ tag) rest
    rwa [← hline, Text.byteLength_append] at hcut
  have hblank : sliceTo line (byteLength (Text.leadingBlank line)) =
      .ok (Text.leadingBlank line) := by
    have hcut := Text.sliceTo_append (Text.leadingBlank line) (Text.trimStart line)
    rwa [Text.leadingBlank_append_trimStart] at hcut
  have hdrop : (Text.trimStart line).drop tag.length = rest := by
    rw [htrim, List.drop_left]
  simp only [uncomment, bind, Except.bind, hstart, hrest, hblank, pure, Except.pure,
    Tag.uncomment, hdrop]

/-- Without the check, a character might be cut in two. -/
example : uncomment "→".toList "ab→".toList = .error (.outOfRange "ab→".toList 3) := by decide

/-- Both offsets at which the tag of a line is cut out are in range. -/
theorem inRange_of_startsWith (h : Text.startsWith tag (Text.trim line) = true) :
    InRange line (byteLength (Text.leadingBlank line)) ∧
      InRange line (byteLength (Text.leadingBlank line) + byteLength tag) := by
  obtain ⟨rest, -, hline⟩ := exists_rest_of_startsWith h
  constructor
  · have hcut := Text.inRange_append (Text.leadingBlank line) (tag ++ rest)
    rwa [← List.append_assoc, ← hline] at hcut
  · have hcut := Text.inRange_append (Text.leadingBlank line ++ tag) rest
    rwa [← hline, Text.byteLength_append] at hcut

theorem skipChars_eq (line : Text) (count : Nat) :
    skipChars line count = .ok (line.drop count) := by
  rw [skipChars, Text.charOffset?_eq]
  by_cases h : count < line.length
  · rw [if_pos h]
    -- The offset is the length in bytes of what is dropped.
    have hcut := Text.sliceFrom_append (line.take count) (line.drop count)
    rwa [List.take_append_drop] at hcut
  · rw [if_neg h, List.drop_eq_nil_of_le (by omega)]

theorem comment_eq (tag : Text) (indent : Nat) (line : Text) :
    comment tag indent line = .ok (Tag.comment tag indent line) := by
  rw [comment, Tag.comment, skipChars_eq]
  split
  · rfl
  split
  · rfl
  · rfl

end Tags

/-! ## §2 Extensions -/

/-- Whether a file name has an extension. -/
def hasExtension (name extension : Text) : Except OffsetFault Bool :=
  if byteLength extension + 1 < byteLength name then
    if extension.isSuffixOf name then do
      -- The dot is looked for in front of the extension.
      let n ← byteDifference (byteLength name) (byteLength extension)
      let stem ← sliceTo name n
      return stem.getLast? == some '.'
    else .ok false
  else .ok false

/-- The sets whose extension a file name has. -/
def candidates (name : Text) :
    List (Text × Keywords) → Except OffsetFault (List (Text × Keywords))
  | [] => .ok []
  | e :: rest => do
    let has ← hasExtension name e.1
    let others ← candidates name rest
    return if has then e :: others else others

/-- The keywords for a file: the set with the longest extension among those that are gone
through. -/
def forFile (sets : List (Text × Keywords)) : Option Text → Except OffsetFault Keywords
  | none => .ok .standard
  | some name => do
    let found ← candidates (KeywordRegistry.normalName name) sets
    return (found.argmax fun e => byteLength e.1).elim .standard Prod.snd

section Extensions

variable {name extension : Text}

/-- Behind a stem, a text is an extension if the stem ends with a dot and is longer than that. -/
theorem hasExtension_append_iff (stem extension : Text) :
    KeywordRegistry.HasExtension (stem ++ extension) extension ↔
      1 < byteLength stem ∧ stem.getLast? = some '.' := by
  constructor
  · rintro ⟨before, hne, heq⟩
    have hends : stem ++ extension = (before ++ ['.']) ++ extension := by simpa using heq
    have hstem : stem = before ++ ['.'] := List.append_cancel_right hends
    -- Something is in front of the dot, and it takes a byte at least.
    have hbefore : byteLength before ≠ 0 := by
      intro hzero
      exact hne (Text.byteLength_eq_zero_iff.mp hzero)
    have hdot : byteLength ['.'] = 1 := rfl
    rw [hstem, Text.byteLength_append, hdot]
    exact ⟨by omega, List.getLast?_concat⟩
  · rintro ⟨hlength, hlast⟩
    obtain ⟨before, rfl⟩ := List.getLast?_eq_some_iff.mp hlast
    refine ⟨before, ?_, by simp⟩
    rintro rfl
    exact absurd hlength (by decide)

/-- Counting bytes tells the extensions of a file name. -/
theorem hasExtension_eq (name extension : Text) :
    hasExtension name extension =
      .ok (decide (KeywordRegistry.HasExtension name extension)) := by
  by_cases hsuffix : extension <:+ name
  · obtain ⟨stem, rfl⟩ := hsuffix
    have hends : extension.isSuffixOf (stem ++ extension) = true :=
      List.isSuffixOf_iff_suffix.mpr (List.suffix_append stem extension)
    rw [hasExtension, if_pos hends, Text.byteLength_append, Text.byteDifference_add]
    simp only [hasExtension_append_iff]
    by_cases hlength : 1 < byteLength stem
    · rw [if_pos (by omega)]
      show (sliceTo (stem ++ extension) (byteLength stem) >>= _) = _
      rw [Text.sliceTo_append]
      simp [hlength, bind, Except.bind, pure, Except.pure, beq_eq_decide]
    · rw [if_neg (by omega)]
      simp [hlength]
  · -- A name that does not end with the text is not cut at all.
    have hends : ¬ extension.isSuffixOf name = true := by
      rwa [List.isSuffixOf_iff_suffix]
    have hnot : ¬ KeywordRegistry.HasExtension name extension := by
      intro h
      exact hsuffix h.suffix
    rw [hasExtension, if_neg hends, decide_eq_false hnot]
    split
    · rfl
    · rfl

theorem candidates_eq (name : Text) (sets : List (Text × Keywords)) :
    candidates name sets =
      .ok (sets.filter fun e => KeywordRegistry.HasExtension name e.1) := by
  induction sets with
  | nil => rfl
  | cons e rest ih =>
    rw [candidates, hasExtension_eq, ih, List.filter_cons]
    rfl

/-- Counting bytes finds the keywords of a file, in whatever order the sets are gone through. -/
theorem forFile_eq {r : KeywordRegistry} {sets : List (Text × Keywords)}
    (h : sets.Perm r.entries) (file : Option Text) : forFile sets file = .ok (r.forFile file) := by
  cases file with
  | none => rfl
  | some name =>
    rw [forFile, candidates_eq, ← KeywordRegistry.longest?_perm h]
    rfl

end Extensions

/-! ## §3 Conversions -/

/-- What becomes of a line of code. -/
def codeLine (k : Keywords) (strip : Bool) (stack : BlockStack) (line : Text) :
    Except OffsetFault (Option Text) :=
  if stack.isActive then
    if Text.startsWith k.evalToken (Text.trim line) then
      some <$> uncomment k.evalToken line
    else .ok (some line)
  else if strip then .ok none
  else some <$> comment k.evalToken stack.indent line

/-- What becomes of a line. -/
def outputLine (k : Keywords) (strip : Bool) (stack : BlockStack) (line : Text) :
    Except OffsetFault (Option Text) :=
  match k.classify (Text.trim line) with
  | .code => codeLine k strip stack line
  | _ => .ok (Conversion.directiveLine strip line)

/-- Reads the lines that follow the first `count` lines of a file.  A line that can not be
accepted is a result; only an offset that is out of range is not. -/
def convertFrom (vars : Variables) (k : Keywords) (strip : Bool) (file : Option Text) :
    Nat → BlockStack → List Text → Except OffsetFault (Except Diagnostic (List Text))
  | count, stack, [] =>
    .ok (if stack.isEmpty then .ok [] else .error ⟨.endifMissing, ⟨some count, file⟩⟩)
  | count, stack, line :: rest =>
    match Conversion.advance vars ⟨some (count + 1), file⟩ (Text.indentation line) stack
        (k.classify (Text.trim line)) with
    | .error d => .ok (.error d)
    | .ok after => do
      let kept ← outputLine k strip stack line
      let output ← convertFrom vars k strip file (count + 1) after rest
      return output.map (kept.toList ++ ·)

/-- Converts the lines of a file with the keywords that are found for it. -/
def convert (c : Conversion) (sets : List (Text × Keywords)) (file : Option Text)
    (lines : List Text) : Except OffsetFault (Except Diagnostic (List Text)) := do
  let k ← forFile sets file
  convertFrom c.vars k c.strip file 0 [] lines

section Conversions

variable {vars : Variables} {k : Keywords} {strip : Bool} {file : Option Text}

theorem codeLine_eq (stack : BlockStack) (line : Text) :
    codeLine k strip stack line = .ok (Conversion.codeLine k strip stack line) := by
  rw [codeLine, Conversion.codeLine, comment_eq]
  split
  · split
    · next htagged =>
      rw [uncomment_eq htagged]
      rfl
    · rfl
  split
  · rfl
  · rfl

theorem outputLine_eq (stack : BlockStack) (line : Text) :
    outputLine k strip stack line = .ok (Conversion.outputLine k strip stack line) := by
  rw [outputLine, Conversion.outputLine, codeLine_eq]
  cases k.classify (Text.trim line) <;> rfl

/-- From any open blocks on, counting bytes has the output or the diagnostic of the conversion. -/
theorem convertFrom_eq (count : Nat) (stack : BlockStack) (lines : List Text) :
    convertFrom vars k strip file count stack lines =
      .ok (Conversion.convertFrom vars k strip file count stack lines) := by
  induction lines generalizing count stack with
  | nil => rfl
  | cons line rest ih =>
    rw [convertFrom, Conversion.convertFrom_cons, outputLine_eq]
    cases Conversion.advance vars ⟨some (count + 1), file⟩ (Text.indentation line) stack
        (k.classify (Text.trim line)) with
    | error d => rfl
    | ok after =>
      show (convertFrom vars k strip file (count + 1) after rest >>= _) =
        .ok (Conversion.convertFrom vars k strip file (count + 1) after rest >>= _)
      rw [ih]
      cases Conversion.convertFrom vars k strip file (count + 1) after rest <;> rfl

end Conversions

/-! ## §4 All offsets -/

/-- **Offsets in bytes are always in range.**  Cutting fails only at an offset that is out of
range.  No line, token, extension or name leads to such an offset where a tag is taken away, where
characters are dropped and where an extension is looked for.  So each line has the output that it
has in characters, whatever the keywords and the open blocks are; and so each look-up of keywords
and each conversion has its result. -/
theorem no_fault :
    (∀ t n, (∃ halves, Text.splitAtByte t n = .ok halves) ↔ InRange t n) ∧
    (∀ tag line, Text.startsWith tag (Text.trim line) = true →
      byteLength (Text.trimStart line) ≤ byteLength line ∧
      InRange line (byteLength line - byteLength (Text.trimStart line)) ∧
      InRange line (byteLength line - byteLength (Text.trimStart line) + byteLength tag)) ∧
    (∀ line count i, charOffset? line count = some i → InRange line i) ∧
    (∀ name extension, extension <:+ name →
      byteLength extension ≤ byteLength name ∧
      InRange name (byteLength name - byteLength extension)) ∧
    (∀ (r : KeywordRegistry) sets, sets.Perm r.entries → ∀ file,
      forFile sets file = .ok (r.forFile file)) ∧
    (∀ k strip stack line,
      outputLine k strip stack line = .ok (Conversion.outputLine k strip stack line)) ∧
    ∀ (c : Conversion) sets, sets.Perm c.keywords.entries → ∀ file lines,
      convert c sets file lines = .ok (c.convert file lines) := by
  refine ⟨?cuts, ?tags, ?characters, ?extensions, ?lookups, ?lines, ?conversions⟩
  case cuts =>
    intro t n
    exact Text.exists_splitAtByte_iff
  case tags =>
    intro tag line htagged
    have hlength := byteLength_eq_add line
    have hblank : byteLength line - byteLength (Text.trimStart line) =
        byteLength (Text.leadingBlank line) := by omega
    rw [hblank]
    exact ⟨by omega, inRange_of_startsWith htagged⟩
  case characters =>
    intro line count i
    exact Text.inRange_of_charOffset?
  case extensions =>
    rintro name extension ⟨stem, rfl⟩
    rw [Text.byteLength_append, Nat.add_sub_cancel]
    exact ⟨Nat.le_add_left _ _, Text.inRange_append stem extension⟩
  case lookups =>
    intro r sets hsets
    exact forFile_eq hsets
  case lines =>
    intro k strip
    exact outputLine_eq
  case conversions =>
    intro c sets hsets file lines
    rw [convert, forFile_eq hsets]
    exact convertFrom_eq 0 [] lines

/-- Tokens of more bytes than characters. -/
def arrowTokens : Keywords where
  ifToken := "→if".toList
  elseifToken := "→elseif".toList
  elseToken := "→else".toList
  endifToken := "→endif".toList
  evalToken := "→".toList

/-- A conversion that finds these tokens under an extension that takes two bytes. -/
def arrowConversion : Conversion where
  vars := Dictionary.ofList [("a".toList, [])]
  keywords := KeywordRegistry.ofList [(".Ö".toList, arrowTokens)]
  strip := false

/-- A line is cut behind three bytes of blank and three bytes of a tag. -/
theorem no_fault_arrowConversion :
    InRange "\u3000→ü".toList 3 ∧ InRange "\u3000→ü".toList 6 ∧
      charOffset? "\u3000→ü".toList 2 = some 6 ∧ InRange "ä.ö".toList 3 ∧
      forFile arrowConversion.keywords.entries (some "Ä.Ö".toList) = .ok arrowTokens ∧
      convert arrowConversion arrowConversion.keywords.entries (some "Ä.Ö".toList)
          ["→if a".toList, "\u3000→ü".toList, "→else".toList, "\u3000ü".toList, "→endif".toList] =
        .ok (.ok ["→if a".toList, "\u3000ü".toList, "→else".toList, "→ \u3000ü".toList,
          "→endif".toList]) := by
  have htagged : Text.startsWith "→".toList (Text.trim "\u3000→ü".toList) = true := by decide
  have hcharacter : charOffset? "\u3000→ü".toList 2 = some 6 := by decide
  have hsuffix : "ö".toList <:+ "ä.ö".toList := by decide
  obtain ⟨-, htags, hcharacters, hextensions, hlookups, -, hconversions⟩ := no_fault
  refine ⟨(htags _ _ htagged).2.1, hcharacters _ _ _ hcharacter, hcharacter,
    (hextensions _ _ hsuffix).2, ?_, ?_⟩
  · rw [hlookups _ _ (List.Perm.refl _)]
    decide +kernel
  · rw [hconversions _ _ (List.Perm.refl _)]
    decide +kernel

end InBytes

end CommentSwitch
