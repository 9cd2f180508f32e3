import CommentSwitch.Proofs.Conversion.StrippedOutput
import CommentSwitch.Proofs.Converter.AllOrNothing
import CommentSwitch.Proofs.Files.Contents

/-!
# Files that are converted again

A file of plain lines that is converted in place is written with a line feed behind every line.
A second conversion leaves that as it is unless a line ends with a carriage return, which only
then stands in front of a line feed and goes with it.

- `Converter.runOn_convertFileNamed_self`: the conversion of a file in place
- `Conversion.Unmarked`: plain lines
- `Converter.convertFileNamed_again`: what converting once and twice leaves
- `Converter.not_stable_returnAtEnd`: a file that the second conversion changes
-/

namespace CommentSwitch

open FileAction FileSystem

/-! ## §1 Conversions in place -/

namespace FileSystem

variable {fs : FileSystem} {p : Path}

/-- The directory for a file that is there is there as well. -/
theorem Sound.made_eq (hsound : fs.Sound) {l : Location} {content : ByteArray}
    (hlocate : fs.locate p = .ok (l, .file content)) : fs.made p = fs :=
  made_of_slot (hsound.slot_of_locate_file hlocate)

end FileSystem

namespace Converter

variable {c : Converter} {name : Option Text} {fs : FileSystem} {p : Path}

/-- A file that is converted in place holds the converted lines, and nothing else changes. -/
theorem runOn_convertFileNamed_self (hsound : fs.Sound) {l : Location} {content : ByteArray}
    (hlocate : fs.locate p = .ok (l, .file content)) {text : Text}
    (htext : textOf? content = some text) {converted : List Text}
    (hlines : c.convertLines name (Text.lines text) = .ok converted) :
    (c.convertFileNamed name p p).runOn fs =
      (.ok ⟨p, p, .transformed (Text.lines text).length converted.length⟩,
        fs.put l (.file (bytesOf (Text.unlines converted)))) := by
  have hread : fs.textAt p = .ok text :=
    textAt_eq_ok_iff.mpr ⟨content, contentAt_eq_ok_iff.mpr ⟨l, hlocate⟩, htext⟩
  have hwritable : (fs.made p).Writable p l := by
    rw [hsound.made_eq hlocate]
    exact hsound.writable_of_locate hlocate
  rw [runOn_convertFileNamed_of_writable hread hlines hwritable, hsound.made_eq hlocate]

/-! ## §2 Plain lines -/

end Converter

/-- A line that is no directive and has no tag. -/
def Conversion.Unmarked (k : Keywords) (line : Text) : Prop :=
  k.classify (Text.trim line) = .code ∧ Text.startsWith k.evalToken (Text.trim line) = false

instance (k : Keywords) (line : Text) : Decidable (Conversion.Unmarked k line) :=
  inferInstanceAs (Decidable (_ ∧ _))

/-- A carriage return at its end does not mark a line. -/
theorem Conversion.Unmarked.dropReturn {k : Keywords} {line : Text}
    (h : Conversion.Unmarked k line) : Conversion.Unmarked k (Text.dropReturn line) := by
  rwa [Conversion.Unmarked, Text.trim_dropReturn]

namespace Converter

open Conversion (Unmarked)

variable {c : Converter} {name : Option Text}

/-- Lines that are not marked stay as they are, if nothing is remapped. -/
theorem convertLines_of_unmarked (hrules : c.remapper.rules = []) {lines : List Text}
    (hplain : ∀ line ∈ lines, Unmarked (c.conversion.keywords.forFile name) line) :
    c.convertLines name lines = .ok lines := by
  have htokenless : ∀ line ∈ lines,
      Conversion.Tokenless (c.conversion.keywords.forFile name) line :=
    fun line hline => Conversion.tokenless_of_untagged (hplain line hline).1 (hplain line hline).2
  have hconvert : c.conversion.convert name lines = .ok lines :=
    Conversion.convert_eq_ok_iff.mpr (Conversion.run_of_tokenless htokenless rfl 0)
  have hremap : c.remapper.remapLine Matcher.replaceAll = id := by
    funext line
    rw [Remapper.remapLine, hrules]
    rfl
  rw [convertLines, hconvert]
  exact congrArg Except.ok (by rw [Remapper.remapLines, hremap, List.map_id])

/-! ## §3 Conversions that are repeated -/

/-- **Converting a file of plain lines once more** takes the carriage returns away that stand
at the ends of its lines after the first conversion, so it changes nothing exactly if no line
ends with one. -/
theorem convertFileNamed_again (c : Converter) (name : Option Text) {fs : FileSystem} {p : Path}
    {text : Text} (hsound : fs.Sound) (hrules : c.remapper.rules = [])
    (htext : fs.textAt p = .ok text)
    (hplain : ∀ line ∈ Text.lines text, Unmarked (c.conversion.keywords.forFile name) line) :
    let lines := Text.lines text
    let once := (c.convertFileNamed name p p).runOn fs
    let twice := (c.convertFileNamed name p p).runOn once.2
    once.1 = .ok ⟨p, p, .transformed lines.length lines.length⟩ ∧
      once.2.contentAt p = .ok (bytesOf (Text.unlines lines)) ∧
      twice.1 = .ok ⟨p, p, .transformed lines.length lines.length⟩ ∧
      twice.2.contentAt p = .ok (bytesOf (Text.unlines (lines.map Text.dropReturn))) ∧
      (twice.2.contentAt p = once.2.contentAt p ↔
        ∀ line ∈ lines, line.getLast? ≠ some '\r') := by
  intro lines once twice
  obtain ⟨content, hcontent, htextOf⟩ := textAt_eq_ok_iff.mp htext
  obtain ⟨l, hlocate⟩ := contentAt_eq_ok_iff.mp hcontent
  have hwritable := hsound.writable_of_locate hlocate
  have honce : once = (.ok ⟨p, p, .transformed lines.length lines.length⟩,
      fs.put l (.file (bytesOf (Text.unlines lines)))) :=
    runOn_convertFileNamed_self hsound hlocate htextOf (convertLines_of_unmarked hrules hplain)
  -- The second conversion finds the same lines without the carriage returns at their ends.
  have hagain : Text.lines (Text.unlines lines) = lines.map Text.dropReturn :=
    Text.lines_unlines fun line hline => Text.not_mem_of_mem_lines hline
  have hlines : c.convertLines name (Text.lines (Text.unlines lines)) =
      .ok (lines.map Text.dropReturn) := by
    rw [hagain]
    refine convertLines_of_unmarked hrules fun line hline => ?_
    obtain ⟨long, hlong, rfl⟩ := List.mem_map.mp hline
    exact (hplain long hlong).dropReturn
  have hmid : once.2.Sound := by
    rw [honce]
    exact hsound.put hwritable.slot_eq fun hdir => absurd hdir hwritable.not_directory
  have htwice : twice = (.ok ⟨p, p, .transformed lines.length lines.length⟩,
      fs.put l (.file (bytesOf (Text.unlines (lines.map Text.dropReturn))))) := by
    rw [honce] at hmid
    have hrun := runOn_convertFileNamed_self hmid (hwritable.locate_put _) (textOf?_bytesOf _)
      hlines
    rw [hagain, List.length_map, put_put] at hrun
    simp only [twice, honce, hrun]
  have hholds (bytes : ByteArray) : (fs.put l (.file bytes)).contentAt p = .ok bytes :=
    contentAt_eq_ok_iff.mpr ⟨l, hwritable.locate_put bytes⟩
  rw [htwice, honce]
  refine ⟨rfl, hholds _, rfl, hholds _, ?_⟩
  simp only [hholds, Except.ok.injEq, bytesOf_inj]
  exact Text.unlines_map_dropReturn_eq_iff

/-- A text with line ends of two kinds, the last one left open. -/
def mixedEnds : FileSystem :=
  ⟨.ofList [([Text.ofString "a.txt"], .file (bytesOf (Text.ofString "one\r\n\ntwo")))], []⟩

theorem convertFileNamed_again_mixedEnds :
    let path := Path.ofText (Text.ofString "a.txt")
    let text := Text.ofString "one\r\n\ntwo"
    let lines := Text.lines text
    let once := (standard.convertFileNamed path.fileName? path path).runOn mixedEnds
    let twice := (standard.convertFileNamed path.fileName? path path).runOn once.2
    mixedEnds.Sound ∧ standard.remapper.rules = [] ∧ mixedEnds.textAt path = .ok text ∧
      (∀ line ∈ lines, Unmarked (standard.conversion.keywords.forFile path.fileName?) line) ∧
      (∀ line ∈ lines, line.getLast? ≠ some '\r') ∧
      once.2.contentAt path = .ok (bytesOf (Text.ofString "one\n\ntwo\n")) ∧
      twice.2.contentAt path = once.2.contentAt path := by
  intro path text lines once twice
  have hsound : mixedEnds.Sound := by decide +kernel
  have htext : mixedEnds.textAt path = .ok text := by decide +kernel
  have hplain : ∀ line ∈ lines,
      Unmarked (standard.conversion.keywords.forFile path.fileName?) line := by decide +kernel
  have hends : ∀ line ∈ lines, line.getLast? ≠ some '\r' := by decide +kernel
  obtain ⟨-, honce, -, -, hagain⟩ :=
    convertFileNamed_again standard path.fileName? hsound rfl htext hplain
  exact ⟨hsound, rfl, htext, hplain, hends, honce, hagain.mpr hends⟩

/-- A text whose last line ends with a carriage return, and no line feed behind it. -/
def returnAtEnd : FileSystem :=
  ⟨.ofList [([Text.ofString "a.txt"], .file (bytesOf (Text.ofString "x\r")))], []⟩

/-- The first conversion puts a line feed behind the carriage return, and the second one takes
both for a line end. -/
theorem not_stable_returnAtEnd :
    let path := Path.ofText (Text.ofString "a.txt")
    let once := (standard.convertFileNamed path.fileName? path path).runOn returnAtEnd
    let twice := (standard.convertFileNamed path.fileName? path path).runOn once.2
    returnAtEnd.Sound ∧ standard.remapper.rules = [] ∧
      returnAtEnd.textAt path = .ok (Text.ofString "x\r") ∧
      (∀ line ∈ Text.lines (Text.ofString "x\r"),
        Unmarked (standard.conversion.keywords.forFile path.fileName?) line) ∧
      once.2.contentAt path = .ok (bytesOf (Text.ofString "x\r\n")) ∧
      twice.2.contentAt path = .ok (bytesOf (Text.ofString "x\n")) ∧
      twice.2.contentAt path ≠ once.2.contentAt path := by
  intro path once twice
  have honce : once.2.contentAt path = .ok (bytesOf (Text.ofString "x\r\n")) := by
    decide +kernel
  have htwice : twice.2.contentAt path = .ok (bytesOf (Text.ofString "x\n")) := by
    decide +kernel
  refine ⟨by decide +kernel, rfl, by decide +kernel, by decide +kernel, honce, htwice, ?_⟩
  rw [honce, htwice]
  decide +kernel

end Converter

end CommentSwitch
