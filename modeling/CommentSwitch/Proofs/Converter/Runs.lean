import CommentSwitch.Converter.File
import CommentSwitch.Proofs.Files.Operations

/-!
# Runs on one file

Everything that the conversion of one file can come to.  The directory for the output is
created, and then a file is written there, the input is copied there, or nothing more
happens.  A fallback copy succeeds only where the text could not be read: where nothing
can be written nothing can be copied to either.

- `FileSystem.made`: a file system in which the directory for a file is created
- `FileAction.runOn_writeLines_cases`, `FileAction.runOn_copyUnchanged_cases`: the parts
- `Converter.ran_convertFileNamed`: all that can happen
- `Converter.runOn_convertFileNamed_of_writable`, `Converter.runOn_convertFileNamed_of_error`:
  what happens to a text
-/

namespace CommentSwitch

open FileAction

/-! ## §1 The directory for a file -/

namespace FileSystem

/-- What is left when the directory for a file is created, as far as it can be. -/
def made (fs : FileSystem) (output : Path) : FileSystem := ((createHolder output).runOn fs).2

variable {fs : FileSystem} {input output directory : Path}

theorem made_of_none (h : output.holder? = none) : fs.made output = fs := by
  rw [made, createHolder, h]
  rfl

theorem made_of_some (h : output.holder? = some directory) :
    fs.made output = ((createAll directory).runOn fs).2 := by
  rw [made, createHolder, h]
  rfl

theorem grows_made (fs : FileSystem) (output : Path) : Grows output fs (fs.made output) := by
  cases hholder : output.holder? with
  | none =>
    rw [made_of_none hholder]
    exact .refl output fs
  | some directory =>
    rw [made_of_some hholder]
    exact (created_createAll directory fs).grows.of_holder? hholder

theorem made_of_isDirectory (h : output.holder? = some directory)
    (hdir : fs.isDirectory directory = true) : fs.made output = fs := by
  rw [made_of_some h, createAll_of_isDirectory hdir]

/-- The directory for a file is there if the file has a slot. -/
theorem isDirectory_of_holder? {l : Location} {slashed : Bool}
    (hslot : fs.slot output = .ok (.named l slashed)) (h : output.holder? = some directory) :
    fs.isDirectory directory = true := by
  exact isDirectory_of_slot hslot (Path.parent?_of_holder? h) (Path.isEmpty_of_holder? h)

/-- Where a file has a slot its directory is there already. -/
theorem made_of_slot {l : Location} {slashed : Bool}
    (hslot : fs.slot output = .ok (.named l slashed)) : fs.made output = fs := by
  cases hholder : output.holder? with
  | none => exact made_of_none hholder
  | some directory => exact made_of_isDirectory hholder (isDirectory_of_holder? hslot hholder)

/-- Creating the directory once more changes nothing, whether it is there or not. -/
theorem made_made (fs : FileSystem) (output : Path) :
    (fs.made output).made output = fs.made output := by
  cases hholder : output.holder? with
  | none => rw [made_of_none hholder]
  | some directory =>
    have hmade : fs.made output = _ := made_of_some hholder
    have hcreated := created_createAll directory fs
    rcases hrun : (createAll directory).runOn fs with ⟨e | _, after⟩
    · rw [hrun] at hmade
      obtain ⟨e', hagain⟩ := createFrom_again hrun
      have hsnd : ((createAll directory).runOn after).2 = after := congrArg Prod.snd hagain
      rw [hmade, made_of_some hholder, hsnd]
    · rw [hrun] at hmade hcreated
      have hdir := (hcreated.isDirectory_iff (Path.isEmpty_of_holder? hholder)).mp rfl
      rw [hmade]
      exact made_of_isDirectory hholder hdir

end FileSystem

/-! ## §2 The parts of a run -/

namespace FileAction

variable {fs : FileSystem} {input output directory : Path}

/-- The directory for a file is created, or nothing can be written there. -/
theorem runOn_forM_holder?_cases (output : Path) (fs : FileSystem) :
    (output.holder?.forM createAll).runOn fs = (.ok (), fs.made output) ∨
    ((∀ l, ¬ (fs.made output).Writable output l) ∧
      ∃ e, (output.holder?.forM createAll).runOn fs = (.error e, fs.made output)) := by
  cases hholder : output.holder? with
  | none =>
    left
    rw [FileSystem.made_of_none hholder]
    rfl
  | some directory =>
    have hcreated := created_createAll directory fs
    simp only [FileSystem.made_of_some hholder, Option.forM]
    rcases hrun : (createAll directory).runOn fs with ⟨e | _, after⟩
    · rw [hrun] at hcreated
      refine .inr ⟨fun l hl => ?_, e, rfl⟩
      have hdir := FileSystem.isDirectory_of_holder? hl.slot_eq hholder
      cases (hcreated.isDirectory_iff (Path.isEmpty_of_holder? hholder)).mpr hdir
    · exact .inl rfl

theorem runOn_createHolder_cases (output : Path) (fs : FileSystem) :
    (createHolder output).runOn fs = (.ok (), fs.made output) ∨
    ((∀ l, ¬ (fs.made output).Writable output l) ∧ ∃ failure, (∀ d, failure ≠ .directives d) ∧
      (createHolder output).runOn fs = (.error failure, fs.made output)) := by
  have hcases := runOn_forM_holder?_cases output fs
  rw [createHolder]
  cases hholder : output.holder? with
  | none =>
    left
    rw [FileSystem.made_of_none hholder]
    rfl
  | some directory =>
    simp only [hholder, Option.forM] at hcases
    simp only [Option.forM, runOn_orElse]
    rcases hcases with hrun | ⟨hnot, e, hrun⟩
    · left
      rw [hrun]
      rfl
    · refine .inr ⟨hnot, .directoryNotCreated directory, nofun, ?_⟩
      rw [hrun]
      rfl

/-- Lines are written where a file can be written once its directory is created. -/
theorem runOn_writeLines_cases (output : Path) (lines : List Text) (fs : FileSystem) :
    (∃ l, (fs.made output).Writable output l ∧ (writeLines output lines).runOn fs =
      (.ok (), (fs.made output).put l (.file (FileSystem.bytesOf (Text.unlines lines))))) ∨
    ((∀ l, ¬ (fs.made output).Writable output l) ∧
      ∃ e, (writeLines output lines).runOn fs = (.error e, fs.made output)) := by
  rw [writeLines, runOn_bind]
  rcases runOn_forM_holder?_cases output fs with hrun | ⟨hnot, e, hrun⟩
  · rw [hrun]
    exact runOn_replace_cases output _ (fs.made output)
  · rw [hrun]
    exact .inr ⟨hnot, e, rfl⟩

/-- Lines are written where there is room for a file once its directory is created. -/
theorem runOn_writeLines_of_writable {l : Location} (h : (fs.made output).Writable output l)
    (lines : List Text) :
    (writeLines output lines).runOn fs =
      (.ok (), (fs.made output).put l (.file (FileSystem.bytesOf (Text.unlines lines)))) := by
  rcases runOn_writeLines_cases output lines fs with ⟨l', hwritable, hrun⟩ | ⟨hnot, -⟩
  · obtain rfl : l' = l := by simpa [h.slot_eq] using hwritable.slot_eq.symm
    exact hrun
  · exact absurd h (hnot l)

/-- A copy is left out where both paths stand for one file; otherwise the input is copied to
where a file can be written once its directory is created. -/
theorem runOn_copyUnchanged_cases (input output : Path) (fault : FileFault) (fs : FileSystem) :
    (fs.isSameFile input output = true ∧ (copyUnchanged input output fault).runOn fs =
      (.ok ⟨input, output, .copied fault.text⟩, fs)) ∨
    (fs.isSameFile input output = false ∧
      ((∃ m content l, (fs.made output).locate input = .ok (m, .file content) ∧
        (fs.made output).Writable output l ∧ (copyUnchanged input output fault).runOn fs =
          (.ok ⟨input, output, .copied fault.text⟩, (fs.made output).put l
            (.file (if m = l then ByteArray.empty else content)))) ∨
      (((∃ e, (fs.made output).contentAt input = .error e) ∨
          ∀ l, ¬ (fs.made output).Writable output l) ∧
        ∃ failure, (∀ d, failure ≠ .directives d) ∧
          (copyUnchanged input output fault).runOn fs = (.error failure, fs.made output)))) := by
  rw [copyUnchanged, runOn_bind, runOn_ask]
  cases hsame : fs.isSameFile input output with
  | true => exact .inl ⟨rfl, by simp⟩
  | false =>
    refine .inr ⟨rfl, ?_⟩
    simp only [Bool.not_false, if_true, runOn_bind, runOn_orElse]
    rcases runOn_createHolder_cases output fs with hrun | ⟨hnot, failure, hother, hrun⟩
    · simp only [hrun]
      rcases runOn_copy_cases input output (fs.made output) with
        ⟨m, content, l, hinput, hwritable, hcopy⟩ | ⟨hnot, e, hcopy⟩
      · exact .inl ⟨m, content, l, hinput, hwritable, by simp [hcopy, Except.mapError]⟩
      · exact .inr ⟨hnot, .fileNotCopied input output, nofun, by simp [hcopy, Except.mapError]⟩
    · exact .inr ⟨.inr hnot, failure, hother, by simp [hrun]⟩

end FileAction

/-! ## §3 Whole runs -/

namespace FileSystem

variable {fs : FileSystem} {input output : Path}

theorem isSamePlace_eq_true_iff {p q : Path} :
    fs.isSamePlace p q = true ↔ ∃ l e, fs.locate p = .ok (l, e) ∧ fs.locate q = .ok (l, e) := by
  rw [isSamePlace]
  constructor
  · intro h
    split at h
    · next l e m e' hp hq =>
      obtain rfl : l = m := by simpa using h
      have he := (locate_eq_ok_iff.mp hp).2.2
      have he' := (locate_eq_ok_iff.mp hq).2.2
      obtain rfl : e = e' := Option.some.inj (he.symm.trans he')
      exact ⟨l, e, hp, hq⟩
    · cases h
  · rintro ⟨l, e, hp, hq⟩
    simp [hp, hq]

theorem textAt_eq_ok_iff {p : Path} {t : Text} :
    fs.textAt p = .ok t ↔ ∃ content, fs.contentAt p = .ok content ∧ textOf? content = some t := by
  rw [textAt]
  cases fs.contentAt p with
  | error e => simp [bind, Except.bind]
  | ok content =>
    cases hcontent : textOf? content <;>
      simp [hcontent, bind, Except.bind, pure, Except.pure, throw, throwThe, MonadExceptOf.throw]

/-- Two paths that stand for one file after nothing could be written did so before. -/
theorem made_of_isSameFile (hsound : fs.Sound) {m : Location} {content : ByteArray}
    (hinput : fs.locate input = .ok (m, .file content))
    (hnot : ∀ l, ¬ (fs.made output).Writable output l)
    (hsame : (fs.made output).isSameFile input output = true) : fs.made output = fs := by
  rcases Bool.or_eq_true_iff.mp hsame with halike | hplace
  · -- The input is there, so the directory for a path that is written alike is there too.
    cases hholder : output.holder? with
    | none => exact made_of_none hholder
    | some directory =>
      have hslot := hsound.slot_of_locate_file hinput
      exact made_of_isDirectory hholder (isDirectory_of_isSame halike hslot
        (Path.parent?_of_holder? hholder) (Path.isEmpty_of_holder? hholder))
  · -- Where the output leads to a file, that could have been written.
    exfalso
    have hgrows := grows_made fs output
    obtain ⟨l, e, hl, houtput⟩ := isSamePlace_eq_true_iff.mp hplace
    obtain ⟨rfl, rfl⟩ : l = m ∧ e = .file content := by
      simpa using hl.symm.trans (hgrows.locate hinput)
    exact hnot l ((hgrows.sound hsound).writable_of_locate houtput)

end FileSystem

namespace Converter

/-- The converter in whose settings nothing is set. -/
def standard : Converter := ⟨⟨.empty, .empty, false⟩, .empty⟩

/-- Everything that the conversion of one file can come to. -/
inductive Ran (c : Converter) (name : Option Text) (input output : Path) (fs : FileSystem) :
    Except Failure FileReport → FileSystem → Prop
  | written {content : Text} {converted : List Text} {l : Location}
      (htext : fs.textAt input = .ok content)
      (hlines : c.convertLines name (Text.lines content) = .ok converted)
      (hwritable : (fs.made output).Writable output l) :
      Ran c name input output fs
        (.ok ⟨input, output, .transformed (Text.lines content).length converted.length⟩)
        ((fs.made output).put l (.file (FileSystem.bytesOf (Text.unlines converted))))
  | refused {content : Text} {d : Diagnostic}
      (htext : fs.textAt input = .ok content)
      (hlines : c.convertLines name (Text.lines content) = .error d) :
      Ran c name input output fs (.error (.directives d)) fs
  | kept {reason : Text} (hsame : fs.isSameFile input output = true) :
      Ran c name input output fs (.ok ⟨input, output, .copied reason⟩) fs
  /-- Nothing is left of a file that is copied onto itself. -/
  | copied {fault : FileFault} {m l : Location} {content : ByteArray}
      (hfault : fs.textAt input = .error fault)
      (hsame : fs.isSameFile input output = false)
      (hinput : (fs.made output).locate input = .ok (m, .file content))
      (hwritable : (fs.made output).Writable output l) :
      Ran c name input output fs (.ok ⟨input, output, .copied fault.text⟩)
        ((fs.made output).put l (.file (if m = l then ByteArray.empty else content)))
  | failed {failure : Failure} (hother : ∀ d, failure ≠ .directives d) :
      Ran c name input output fs (.error failure) (fs.made output)

theorem ran_convertFileNamed (c : Converter) (name : Option Text) (input output : Path)
    {fs : FileSystem} (hsound : fs.Sound) :
    Ran c name input output fs ((c.convertFileNamed name input output).runOn fs).1
      ((c.convertFileNamed name input output).runOn fs).2 := by
  rw [convertFileNamed, runOn_bind, runOn_ask]
  cases htext : fs.textAt input with
  | error fault =>
    rcases runOn_copyUnchanged_cases input output fault fs with
      ⟨hsame, hrun⟩ | ⟨hsame, ⟨m, content, l, hinput, hwritable, hrun⟩ | ⟨-, e, hother, hrun⟩⟩
    · simp only [hrun]
      exact .kept hsame
    · simp only [hrun]
      exact .copied htext hsame hinput hwritable
    · simp only [hrun]
      exact .failed hother
  | ok content =>
    cases hlines : c.convertLines name (Text.lines content) with
    | error d =>
      simp only [hlines, runOn_throw]
      exact .refused htext hlines
    | ok converted =>
      simp only [hlines, runOn_bind, runOn_attempt]
      rcases runOn_writeLines_cases output converted fs with
        ⟨l, hwritable, hwrite⟩ | ⟨hnot, fault, hwrite⟩
      · simp only [hwrite, runOn_pure]
        exact .written htext hlines hwritable
      · -- The copy is tried where the attempt to write has left things.
        simp only [hwrite]
        obtain ⟨bytes, hcontent, -⟩ := FileSystem.textAt_eq_ok_iff.mp htext
        obtain ⟨m, hinput⟩ := FileSystem.contentAt_eq_ok_iff.mp hcontent
        rcases runOn_copyUnchanged_cases input output fault (fs.made output) with
          ⟨hsame, hrun⟩ | ⟨-, ⟨m', content', l, -, hwritable, -⟩ | ⟨-, e, hother, hrun⟩⟩
        · have hmade := FileSystem.made_of_isSameFile hsound hinput hnot hsame
          rw [hmade] at hsame hrun
          simp only [hmade, hrun]
          exact .kept hsame
        · rw [FileSystem.made_made] at hwritable
          exact absurd hwritable (hnot l)
        · rw [FileSystem.made_made] at hrun
          simp only [hrun]
          exact .failed hother

section Parts

variable {c : Converter} {name : Option Text} {input output : Path} {fs : FileSystem} {t : Text}

/-- A text that can be converted is written where there is room for it. -/
theorem runOn_convertFileNamed_of_writable (htext : fs.textAt input = .ok t)
    {converted : List Text} (hlines : c.convertLines name (Text.lines t) = .ok converted)
    {l : Location} (hwritable : (fs.made output).Writable output l) :
    (c.convertFileNamed name input output).runOn fs =
      (.ok ⟨input, output, .transformed (Text.lines t).length converted.length⟩,
        (fs.made output).put l (.file (FileSystem.bytesOf (Text.unlines converted)))) := by
  rw [convertFileNamed, runOn_bind, runOn_ask]
  simp only [htext, hlines, runOn_bind, runOn_attempt,
    runOn_writeLines_of_writable hwritable, runOn_pure]

/-- Faulty directives stop the conversion of a file before anything is written. -/
theorem runOn_convertFileNamed_of_error (htext : fs.textAt input = .ok t) {d : Diagnostic}
    (hlines : c.convertLines name (Text.lines t) = .error d) :
    (c.convertFileNamed name input output).runOn fs = (.error (.directives d), fs) := by
  rw [convertFileNamed, runOn_bind, runOn_ask]
  simp only [htext, hlines, runOn_throw]

end Parts

end Converter

end CommentSwitch
