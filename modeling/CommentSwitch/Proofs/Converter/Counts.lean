import CommentSwitch.Proofs.Conversion.LeftOut
import CommentSwitch.Proofs.Converter.Batches
import CommentSwitch.Report.Summary

/-!
# Counts of a run

The counts of a run add up what the runs on the files have come to.  No file gets longer, so
the number of lines that were removed is the number of lines that the conversions of the
single files have left out, and the remap table has no part in it.

- `Statistics.ofReports_eq`: the counts are sums over the reports
- `Converter.turns`: jobs with the file system that each of them finds
- `Converter.Reported`: what a report says of the file that was converted
- `Converter.counted_of_batch`: the counts of every batch are exact
-/

namespace CommentSwitch

open FileAction FileSystem

/-! ## §1 Sums -/

namespace Outcome

/-- The number of lines that were read; a file that is copied is not read as lines. -/
def linesIn : Outcome → Nat
  | transformed linesIn _ => linesIn
  | copied _ => 0

/-- The number of lines that were written. -/
def linesOut : Outcome → Nat
  | transformed _ linesOut => linesOut
  | copied _ => 0

end Outcome

namespace Statistics

theorem foldl_add (reports : List FileReport) (s : Statistics) :
    reports.foldl (fun s r => s.add r.outcome) s =
      { totalFiles := s.totalFiles + reports.length
        transformed := s.transformed + reports.countP (!·.outcome.isCopied)
        copied := s.copied + reports.countP (·.outcome.isCopied)
        linesIn := s.linesIn + (reports.map (·.outcome.linesIn)).sum
        linesOut := s.linesOut + (reports.map (·.outcome.linesOut)).sum } := by
  induction reports generalizing s with
  | nil => rfl
  | cons r reports ih =>
    rw [List.foldl_cons, ih]
    rcases r with ⟨input, output, _ | _⟩ <;>
      simp [add, Outcome.isCopied, Outcome.linesIn, Outcome.linesOut, Nat.add_assoc,
        Nat.add_comm 1]

/-- The counts are sums over the reports. -/
theorem ofReports_eq (reports : List FileReport) :
    ofReports reports =
      { totalFiles := reports.length
        transformed := reports.countP (!·.outcome.isCopied)
        copied := reports.countP (·.outcome.isCopied)
        linesIn := (reports.map (·.outcome.linesIn)).sum
        linesOut := (reports.map (·.outcome.linesOut)).sum } := by
  simp [ofReports, foldl_add, zero]

end Statistics

/-! ## §2 Reports -/

namespace Converter

variable {c : Converter} {fs after : FileSystem} {jobs : List Job} {reports : List FileReport}

/-- Jobs, each with the file system that it finds when its turn comes. -/
def turns (c : Converter) : List Job → FileSystem → List (Job × FileSystem)
  | [], _ => []
  | j :: jobs, fs => (j, fs) :: c.turns jobs ((c.convertFile j.input j.output).runOn fs).2

/-- What a report says of a file that was converted at its turn. -/
inductive Reported (c : Converter) : Job × FileSystem → FileReport → Prop
  | copied {j : Job} {fs : FileSystem} {reason : Text} :
      Reported c (j, fs) ⟨j.input, j.output, .copied reason⟩
  | transformed {j : Job} {fs : FileSystem} {content : Text} {converted : List Text}
      (htext : fs.textAt j.input = .ok content)
      (hlines : c.convertLines j.input.fileName? (Text.lines content) = .ok converted) :
      Reported c (j, fs)
        ⟨j.input, j.output, .transformed (Text.lines content).length converted.length⟩

theorem exists_copied_of_copyUnchanged {input output : Path} {fault : FileFault}
    {report : FileReport}
    (h : (copyUnchanged input output fault).runOn fs = (.ok report, after)) :
    ∃ reason, report = ⟨input, output, .copied reason⟩ := by
  rcases runOn_copyUnchanged_cases input output fault fs with
    ⟨-, hrun⟩ | ⟨-, ⟨m, content, l, -, -, hrun⟩ | ⟨-, failure, -, hrun⟩⟩
  · rw [hrun] at h
    cases h
    exact ⟨fault.text, rfl⟩
  · rw [hrun] at h
    cases h
    exact ⟨fault.text, rfl⟩
  · rw [hrun] at h
    cases h

theorem reported_of_convertFile {j : Job} {report : FileReport}
    (h : (c.convertFile j.input j.output).runOn fs = (.ok report, after)) :
    Reported c (j, fs) report := by
  rw [convertFile, convertFileNamed, runOn_bind, runOn_ask] at h
  cases htext : fs.textAt j.input with
  | error fault =>
    simp only [htext] at h
    obtain ⟨reason, rfl⟩ := exists_copied_of_copyUnchanged h
    exact .copied
  | ok content =>
    simp only [htext] at h
    cases hlines : c.convertLines j.input.fileName? (Text.lines content) with
    | error d =>
      simp only [hlines, runOn_throw] at h
      cases h
    | ok converted =>
      simp only [hlines, runOn_bind, runOn_attempt] at h
      cases hwrite : ((writeLines j.output converted).runOn fs).1 with
      | error fault =>
        simp only [hwrite] at h
        obtain ⟨reason, rfl⟩ := exists_copied_of_copyUnchanged h
        exact .copied
      | ok u =>
        simp only [hwrite, runOn_pure] at h
        cases h
        exact .transformed htext hlines

/-- A run of jobs that succeeds has a report on each of them, in order. -/
theorem forall₂_of_convertJobs (h : (c.convertJobs jobs).runOn fs = (.ok reports, after)) :
    List.Forall₂ (Reported c) (c.turns jobs fs) reports := by
  induction jobs generalizing fs reports with
  | nil =>
    cases h
    exact .nil
  | cons j jobs ih =>
    rw [convertJobs, List.mapM_cons, runOn_bind_eq_ok_iff] at h
    obtain ⟨report, mid, hfirst, h⟩ := h
    rw [runOn_bind_eq_ok_iff] at h
    obtain ⟨rest, last, hrest, h⟩ := h
    cases h
    refine .cons (reported_of_convertFile hfirst) ?_
    -- What the first job leaves is what the next one finds.
    rw [hfirst]
    exact ih hrest

theorem map_fst_turns (c : Converter) (jobs : List Job) (fs : FileSystem) :
    (c.turns jobs fs).map Prod.fst = jobs := by
  induction jobs generalizing fs with
  | nil => rfl
  | cons j jobs ih => rw [turns, List.map_cons, ih]

/-! ## §3 Counts -/

/-- The number of lines that the conversion of a file has left out; nothing is left out of a
file that was copied. -/
noncomputable def leftOut (c : Converter) (turn : Job × FileSystem) (report : FileReport) : Nat :=
  match report.outcome, turn.2.textAt turn.1.input with
  | .transformed _ _, .ok content =>
    c.conversion.leftOut turn.1.input.fileName? (Text.lines content)
  | _, _ => 0

section Turns

variable {turns : List (Job × FileSystem)} {turn : Job × FileSystem} {report : FileReport}

/-- What is written of a file, and what is left out of it, is what was read. -/
theorem Reported.linesOut_add_leftOut (h : Reported c turn report) :
    report.outcome.linesOut + c.leftOut turn report = report.outcome.linesIn := by
  cases h with
  | copied => rfl
  | transformed htext hlines =>
    -- The remap table changes lines, but not their number.
    obtain ⟨kept, hkept, hlength⟩ := length_convertLines hlines
    simp only [Outcome.linesOut, Outcome.linesIn, leftOut, htext, hlength]
    exact Conversion.length_add_leftOut hkept

theorem Reported.files_eq (h : Reported c turn report) :
    (report.input, report.output) = (turn.1.input, turn.1.output) := by
  cases h <;> rfl

theorem leftOut_eq_zero (hplain : c.conversion.strip = false) (turn : Job × FileSystem)
    (report : FileReport) : c.leftOut turn report = 0 := by
  rw [leftOut]
  split
  · rw [Conversion.leftOut, hplain]
    rfl
  · rfl

/-- The equation of single files, summed up over a run. -/
theorem sum_linesOut_add_leftOut (h : List.Forall₂ (Reported c) turns reports) :
    (reports.map (·.outcome.linesOut)).sum + (List.zipWith c.leftOut turns reports).sum =
      (reports.map (·.outcome.linesIn)).sum := by
  induction h with
  | nil => rfl
  | cons hreport _ ih =>
    have hfile := hreport.linesOut_add_leftOut
    simp only [List.map_cons, List.sum_cons, List.zipWith_cons_cons]
    omega

theorem map_files_of_reported (h : List.Forall₂ (Reported c) turns reports) :
    reports.map (fun r => (r.input, r.output)) =
      (turns.map Prod.fst).map fun j => (j.input, j.output) := by
  induction h with
  | nil => rfl
  | cons hreport _ ih => rw [List.map_cons, List.map_cons, List.map_cons, hreport.files_eq, ih]

/-- No file gets longer. -/
theorem linesOut_le_of_reported (h : List.Forall₂ (Reported c) turns reports) :
    ∀ r ∈ reports, r.outcome.linesOut ≤ r.outcome.linesIn := by
  induction h with
  | nil => nofun
  | cons hreport _ ih =>
    have hfile := hreport.linesOut_add_leftOut
    exact List.forall_mem_cons.mpr ⟨by omega, ih⟩

end Turns

/-- The counts of a run are exact. -/
structure Counted (c : Converter) (jobs : List Job) (fs : FileSystem)
    (reports : List FileReport) : Prop where
  /-- There is a report on every job. -/
  files_eq : reports.map (fun r => (r.input, r.output)) = jobs.map fun j => (j.input, j.output)
  totalFiles_eq : (Statistics.ofReports reports).totalFiles = reports.length
  transformed_eq : (Statistics.ofReports reports).transformed =
    reports.countP fun r => !r.outcome.isCopied
  transformed_add_copied : (Statistics.ofReports reports).transformed +
    (Statistics.ofReports reports).copied = (Statistics.ofReports reports).totalFiles
  linesOut_le_of_mem : ∀ r ∈ reports, ∀ linesIn linesOut,
    r.outcome = .transformed linesIn linesOut → linesOut ≤ linesIn
  linesOut_le : (Statistics.ofReports reports).linesOut ≤ (Statistics.ofReports reports).linesIn
  /-- What was removed is what was left out of the single files. -/
  linesRemoved_eq : (Statistics.ofReports reports).linesRemoved =
    (List.zipWith c.leftOut (c.turns jobs fs) reports).sum
  linesRemoved_eq_zero : c.conversion.strip = false →
    (Statistics.ofReports reports).linesRemoved = 0

theorem counted_of_convertJobs (h : (c.convertJobs jobs).runOn fs = (.ok reports, after)) :
    Counted c jobs fs reports := by
  have hreports := forall₂_of_convertJobs h
  have hsum := sum_linesOut_add_leftOut hreports
  have hremoved : (Statistics.ofReports reports).linesRemoved =
      (List.zipWith c.leftOut (c.turns jobs fs) reports).sum := by
    simp only [Statistics.linesRemoved, Statistics.ofReports_eq]
    omega
  refine ⟨?_, by rw [Statistics.ofReports_eq], by rw [Statistics.ofReports_eq], ?_, ?_, ?_,
    hremoved, fun hplain => ?_⟩
  · rw [map_files_of_reported hreports, map_fst_turns]
  · simp only [Statistics.ofReports_eq]
    rw [Nat.add_comm]
    have hlength := List.length_eq_countP_add_countP (fun r : FileReport => r.outcome.isCopied)
      (l := reports)
    simpa using hlength.symm
  · intro r hr linesIn linesOut houtcome
    have hle := linesOut_le_of_reported hreports r hr
    rwa [houtcome] at hle
  · simp only [Statistics.ofReports_eq]
    omega
  · rw [hremoved, ← List.map_uncurry_zip_eq_zipWith]
    refine List.sum_eq_zero fun n hn => ?_
    obtain ⟨⟨turn, report⟩, -, rfl⟩ := List.mem_map.mp hn
    exact leftOut_eq_zero hplain turn report

/-- **The counts of a run are exact**, whether files are converted into a target or in place:
every file is transformed or copied, none gets longer, and the number of removed lines is the
number of lines that stripping has left out of the files that were transformed. -/
theorem counted_of_batch (c : Converter) (fs : FileSystem) :
    (∀ sources target reports after,
      (c.process sources target).runOn fs = (.ok reports, after) →
      ∃ bare jobs, (Batch.clear target).runOn fs = (.ok (), bare) ∧
        Job.ofSources bare sources target = .ok jobs ∧ Counted c jobs bare reports) ∧
    ∀ paths reports after, (c.applyInPlace paths).runOn fs = (.ok reports, after) →
      ∃ jobs, Job.allInPlace fs paths = .ok jobs ∧ Counted c jobs fs reports := by
  constructor
  · intro sources target reports after h
    obtain ⟨-, -, bare, jobs, filled, hclear, hjobs, hconvert, -⟩ := process_eq_ok h
    exact ⟨bare, jobs, hclear, hjobs, counted_of_convertJobs hconvert⟩
  · intro paths reports after h
    rw [applyInPlace, runOn_bind_eq_ok_iff] at h
    obtain ⟨jobs, mid, hjobs, hconvert⟩ := h
    obtain ⟨hjobs, rfl⟩ := runOn_askOr_eq_ok_iff.mp hjobs
    exact ⟨jobs, hjobs, counted_of_convertJobs hconvert⟩

/-- The converter that strips, and in whose settings nothing else is set. -/
def stripping : Converter := ⟨⟨.empty, .empty, true⟩, .empty⟩

/-- A directory with a block of code, and with bytes that are no text. -/
def codeAndNoise : FileSystem :=
  ⟨.ofList [([Text.ofString "src"], .directory),
      ([Text.ofString "src", Text.ofString "a.js"],
        .file (bytesOf (Text.ofString "//#if a\nx\n//#else\ny\n//#endif\nz"))),
      ([Text.ofString "src", Text.ofString "noise"], .file ⟨#[0x89, 0xff]⟩)], []⟩

theorem counted_codeAndNoise :
    let src := Path.ofText (Text.ofString "src")
    let out := Path.ofText (Text.ofString "out")
    let reports : List FileReport :=
      [⟨.ofText (Text.ofString "src/a.js"), .ofText (Text.ofString "out/a.js"), .transformed 6 2⟩,
        ⟨.ofText (Text.ofString "src/noise"), .ofText (Text.ofString "out/noise"),
          .copied FileFault.notText.text⟩]
    let run := (stripping.process [src] out).runOn codeAndNoise
    run.1 = .ok reports ∧ Statistics.ofReports reports = ⟨2, 1, 1, 6, 2⟩ ∧
      ∃ bare jobs, (Batch.clear out).runOn codeAndNoise = (.ok (), bare) ∧
        Job.ofSources bare [src] out = .ok jobs ∧ Counted stripping jobs bare reports := by
  intro src out reports run
  have hreports : run.1 = .ok reports := by decide +kernel
  have hrun : run = (.ok reports, run.2) := by rw [← hreports]
  refine ⟨hreports, by decide +kernel, ?_⟩
  exact (counted_of_batch stripping codeAndNoise).1 [src] out reports run.2 hrun

end Converter

end CommentSwitch
