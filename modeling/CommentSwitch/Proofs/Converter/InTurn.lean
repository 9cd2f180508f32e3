import CommentSwitch.Proofs.Converter.Batches
import CommentSwitch.Proofs.Files.Leads
import Mathlib.Data.List.Forall2
import Mathlib.Data.List.Nodup

/-!
# Jobs in turn

Jobs that find what they convert are carried out one after the other if their outputs can be
written, wherever their paths lead.  Faulty directives stop the run in front of the output.

- `FileSystem.CanWrite`: files that can be written one after the other
- `Converter.product`: what the conversion of a file writes and reports
- `Converter.runOn_convertFileNamed_of_product`: single jobs
- `Job.InTurn`: jobs that leave the inputs of each other as they are
- `Converter.convertJobs_of_canWrite`, `Converter.convertJobs_eq_error`: runs of jobs
- `Job.ofSources_directory`, `Job.inTurn_of_emptied`: the jobs of one directory
- `Converter.process_of_canWrite`, `Converter.process_eq_error`: batches with one directory
-/

namespace CommentSwitch

open FileAction

namespace FileSystem

variable {fs mid after : FileSystem} {p : Path} {l m : Location}

/-! ## §1 Files that can be written -/

/-- Files can be written one after the other, whatever is written into them, in directories
that are created as far as they are missing. -/
def CanWrite : FileSystem → List Path → Prop
  | _, [] => True
  | fs, p :: rest => ∃ l, (fs.made p).Writable p l ∧
      ∀ content, ((fs.made p).put l (.file content)).CanWrite rest

theorem textAt_eq_notText {content : ByteArray} (hcontent : fs.contentAt p = .ok content)
    (htextOf : textOf? content = none) : fs.textAt p = .error .notText := by
  simp [textAt, hcontent, htextOf, bind, Except.bind, throw, throwThe, MonadExceptOf.throw]

/-- Paths that say different places do not stand for one file. -/
theorem isSameFile_eq_false {input output : Path} {e : Entry}
    (hinput : fs.locate input = .ok (m, e)) (hne : m ≠ fs.lead output) :
    fs.isSameFile input output = false := by
  rw [← Bool.not_eq_true]
  intro hsame
  apply hne
  rcases Bool.or_eq_true_iff.mp hsame with halike | hplace
  · rw [eq_lead_of_locate hinput, lead_eq_of_isSame halike]
  · obtain ⟨l, e', hl, houtput⟩ := isSamePlace_eq_true_iff.mp hplace
    obtain ⟨rfl, -⟩ : m = l ∧ e = e' := by simpa [hinput] using hl
    exact eq_lead_of_locate houtput

theorem Touched.contentAt {places : List Location} (h : Touched places fs after)
    {content : ByteArray} (hl : l ∉ places) (hp : fs.locate p = .ok (l, .file content)) :
    after.contentAt p = fs.contentAt p := by
  rw [contentAt_eq_ok_iff.mpr ⟨l, hp⟩, contentAt_eq_ok_iff.mpr ⟨l, h.locate hl hp⟩]

end FileSystem

/-! ## §2 Single jobs -/

namespace Converter

open FileSystem

variable {c : Converter} {name : Option Text} {input output : Path} {fs after : FileSystem}
  {content out : ByteArray} {outcome : Outcome}

/-- What the conversion of a file writes and reports, given the name and the content of that. -/
def product (c : Converter) (name : Option Text) (content : ByteArray) :
    Except Diagnostic (ByteArray × Outcome) :=
  match textOf? content with
  | none => .ok (content, .copied FileFault.notText.text)
  | some t => (c.convertLines name (Text.lines t)).map fun lines =>
      (bytesOf (Text.unlines lines), .transformed (Text.lines t).length lines.length)

theorem map_fst_product (c : Converter) (name : Option Text) (content : ByteArray) :
    (c.product name content).map Prod.fst = c.converted name content := by
  rw [product, converted]
  cases textOf? content with
  | none => rfl
  | some t =>
    simp only
    cases c.convertLines name (Text.lines t) <;> rfl

/-- The product for a text. -/
theorem product_of_text {t : Text} (htext : textOf? content = some t) :
    c.product name content = (c.convertLines name (Text.lines t)).map fun lines =>
      (bytesOf (Text.unlines lines), .transformed (Text.lines t).length lines.length) := by
  rw [product, htext]

/-- A file is converted wherever its output can be written, if that is another place. -/
theorem runOn_convertFileNamed_of_product {m l : Location}
    (hinput : fs.locate input = .ok (m, .file content)) (hne : m ≠ fs.lead output)
    (hwritable : (fs.made output).Writable output l)
    (hproduct : c.product name content = .ok (out, outcome)) :
    (c.convertFileNamed name input output).runOn fs =
      (.ok ⟨input, output, outcome⟩, (fs.made output).put l (.file out)) := by
  have hcontent : fs.contentAt input = .ok content := contentAt_eq_ok_iff.mpr ⟨m, hinput⟩
  have hgrows := grows_made fs output
  cases htextOf : textOf? content with
  | some t =>
    have htext : fs.textAt input = .ok t := textAt_eq_ok_iff.mpr ⟨content, hcontent, htextOf⟩
    rw [product_of_text htextOf] at hproduct
    cases hlines : c.convertLines name (Text.lines t) with
    | error d => rw [hlines] at hproduct; cases hproduct
    | ok lines =>
      rw [hlines] at hproduct
      cases hproduct
      exact runOn_convertFileNamed_of_writable htext hlines hwritable
  | none =>
    -- What is no text is copied, and the copy is not left out.
    rw [product, htextOf] at hproduct
    cases hproduct
    rw [convertFileNamed, runOn_bind, runOn_ask]
    simp only [textAt_eq_notText hcontent htextOf]
    rcases runOn_copyUnchanged_cases input output .notText fs with
      ⟨hsame, -⟩ | ⟨-, ⟨m', content', l', hinput', hwritable', hrun⟩ | ⟨hnot, -⟩⟩
    · rw [isSameFile_eq_false hinput hne] at hsame
      cases hsame
    · obtain ⟨rfl, rfl⟩ : m = m' ∧ content = content' := by
        simpa [hinput', eq_comm] using hgrows.locate hinput
      obtain rfl : l' = l := by simpa [hwritable.slot_eq] using hwritable'.slot_eq.symm
      have hml : m ≠ l' := by
        rwa [hwritable.eq_lead, hgrows.keepsDirectories.lead_eq]
      rw [hrun, if_neg hml]
    · rcases hnot with ⟨e, herror⟩ | hnot
      · rw [contentAt_eq_ok_iff.mpr ⟨m, hgrows.locate hinput⟩] at herror
        cases herror
      · exact absurd hwritable (hnot l)

end Converter

/-! ## §3 Runs of jobs -/

namespace Job

open FileSystem

variable {fs mid after : FileSystem} {j : Job} {jobs before : List Job}

/-- Jobs that leave the inputs and the outputs of each other as they are, wherever their paths
lead. -/
structure InTurn (fs : FileSystem) (jobs : List Job) : Prop where
  found : ∀ j ∈ jobs, ∃ m content, fs.locate j.input = .ok (m, .file content) ∧
    ∀ k ∈ jobs, m ≠ fs.lead k.output
  distinct : (jobs.map fun j => fs.lead j.output).Nodup

/-- After the first jobs the others are still in turn, with what they have been about to read. -/
theorem InTurn.of_touched (h : InTurn fs (before ++ jobs))
    (htouched : Touched (before.map fun j => fs.lead j.output) fs mid) :
    InTurn mid jobs ∧ ∀ j ∈ jobs, mid.contentAt j.input = fs.contentAt j.input := by
  have hlead (p : Path) : mid.lead p = fs.lead p := htouched.toKeepsDirectories.lead_eq p
  have hfound : ∀ j ∈ jobs, ∃ m content, fs.locate j.input = .ok (m, .file content) ∧
      m ∉ (before.map fun j => fs.lead j.output) ∧ ∀ k ∈ jobs, m ≠ fs.lead k.output := by
    intro j hj
    obtain ⟨m, content, hm, hne⟩ := h.found j (List.mem_append_right _ hj)
    refine ⟨m, content, hm, fun hmem => ?_, fun k hk => hne k (List.mem_append_right _ hk)⟩
    obtain ⟨k, hk, hkm⟩ := List.mem_map.mp hmem
    exact hne k (List.mem_append_left _ hk) hkm.symm
  refine ⟨⟨fun j hj => ?_, ?_⟩, fun j hj => ?_⟩
  · obtain ⟨m, content, hm, hnot, hne⟩ := hfound j hj
    refine ⟨m, content, htouched.locate hnot hm, fun k hk => ?_⟩
    rw [hlead]
    exact hne k hk
  · have hdistinct := h.distinct
    rw [List.map_append] at hdistinct
    simpa only [hlead] using (List.nodup_append.mp hdistinct).2.1
  · obtain ⟨m, content, hm, hnot, -⟩ := hfound j hj
    exact htouched.contentAt hnot hm

/-- A job that has been carried out: its output holds what was to be written, and the report
says so. -/
def Done (c : Converter) (fs after : FileSystem) (j : Job) (report : FileReport) : Prop :=
  ∃ content out outcome, fs.contentAt j.input = .ok content ∧
    c.product j.input.fileName? content = .ok (out, outcome) ∧
    after.contentAt j.output = .ok out ∧ report = ⟨j.input, j.output, outcome⟩

theorem InTurn.nodup_outputs (h : InTurn fs jobs) : (jobs.map (·.output)).Nodup := by
  refine List.Nodup.of_map fs.lead ?_
  rw [List.map_map]
  exact h.distinct

/-- Jobs stay carried out while their inputs and outputs stay. -/
theorem Done.congr {c : Converter} {fs' after' : FileSystem} {reports : List FileReport}
    (h : List.Forall₂ (Done c fs after) jobs reports)
    (hinputs : ∀ j ∈ jobs, fs'.contentAt j.input = fs.contentAt j.input)
    (houtputs : ∀ j ∈ jobs, after'.contentAt j.output = after.contentAt j.output) :
    List.Forall₂ (Done c fs' after') jobs reports := by
  have hboth : ∀ j ∈ jobs, fs'.contentAt j.input = fs.contentAt j.input ∧
      after'.contentAt j.output = after.contentAt j.output :=
    fun j hj => ⟨hinputs j hj, houtputs j hj⟩
  refine ((List.forall₂_and_left _ _).mpr ⟨hboth, h⟩).imp ?_
  rintro j report ⟨⟨hinput, houtput⟩, content, out, outcome, hcontent, hproduct, hout, hreport⟩
  exact ⟨content, out, outcome, hinput ▸ hcontent, hproduct, houtput ▸ hout, hreport⟩

/-- There is one report on the output of a job that has been carried out. -/
theorem filter_of_done {c : Converter} {reports : List FileReport}
    (h : List.Forall₂ (Done c fs after) jobs reports) (hnodup : (jobs.map (·.output)).Nodup)
    (hj : j ∈ jobs) : ∃ report, Done c fs after j report ∧
      reports.filter (·.output = j.output) = [report] := by
  have hothers {jobs : List Job} {reports : List FileReport}
      (h : List.Forall₂ (Done c fs after) jobs reports) {output : Path}
      (hnot : output ∉ jobs.map (·.output)) : reports.filter (·.output = output) = [] := by
    induction h with
    | nil => rfl
    | cons hdone _ ih =>
      obtain ⟨content, out, outcome, -, -, -, rfl⟩ := hdone
      obtain ⟨hhead, htail⟩ := not_or.mp (List.mem_cons.not.mp hnot)
      rw [List.filter_cons_of_neg (by simpa using Ne.symm hhead), ih htail]
  induction h with
  | nil => cases hj
  | @cons k report jobs reports hdone hrest ih =>
    obtain ⟨hnotin, hnodup⟩ := List.nodup_cons.mp hnodup
    have houtput : report.output = k.output := by
      obtain ⟨content, out, outcome, -, -, -, rfl⟩ := hdone
      rfl
    rcases List.mem_cons.mp hj with rfl | hj
    · refine ⟨report, hdone, ?_⟩
      rw [List.filter_cons_of_pos (by simpa using houtput), hothers hrest hnotin]
    · obtain ⟨report', hdone', hfilter⟩ := ih hnodup hj
      refine ⟨report', hdone', ?_⟩
      have hne : report.output ≠ j.output := by
        rw [houtput]
        exact fun hsame => hnotin (List.mem_map.mpr ⟨j, hj, hsame.symm⟩)
      rw [List.filter_cons_of_neg (by simpa using hne), hfilter]

end Job

namespace Converter

open FileSystem Job

variable {c : Converter} {fs after : FileSystem} {j : Job} {jobs before rest : List Job}
  {more : List Path}

/-- **Jobs in turn are all carried out** if their outputs can be written and no directives are
at fault, and nothing else is written. -/
theorem convertJobs_of_canWrite (hjobs : InTurn fs jobs)
    (hconverts : ∀ j ∈ jobs, ∀ content, fs.contentAt j.input = .ok content →
      ∃ out, c.converted j.input.fileName? content = .ok out)
    (hwrite : fs.CanWrite (jobs.map (·.output) ++ more)) :
    ∃ reports after, (c.convertJobs jobs).runOn fs = (.ok reports, after) ∧
      after.CanWrite more ∧ Touched (jobs.map fun j => fs.lead j.output) fs after ∧
      List.Forall₂ (Done c fs after) jobs reports := by
  induction jobs generalizing fs with
  | nil => exact ⟨[], fs, rfl, hwrite, .refl fs, .nil⟩
  | cons j jobs ih =>
    obtain ⟨hfirst, hconverts⟩ := List.forall_mem_cons.mp hconverts
    obtain ⟨m, content, hm, hne⟩ := hjobs.found j List.mem_cons_self
    have hcontent : fs.contentAt j.input = .ok content := contentAt_eq_ok_iff.mpr ⟨m, hm⟩
    obtain ⟨out, hconverted⟩ := hfirst content hcontent
    obtain ⟨outcome, hproduct⟩ : ∃ outcome,
        c.product j.input.fileName? content = .ok (out, outcome) := by
      rw [← map_fst_product] at hconverted
      cases hproduct : c.product j.input.fileName? content with
      | error d => rw [hproduct] at hconverted; cases hconverted
      | ok x =>
        rw [hproduct] at hconverted
        obtain rfl : x.1 = out := Except.ok.inj hconverted
        exact ⟨x.2, rfl⟩
    obtain ⟨l, hwritable, hwriteRest⟩ := hwrite
    have hrun : (c.convertFile j.input j.output).runOn fs = _ :=
      runOn_convertFileNamed_of_product hm (hne j List.mem_cons_self) hwritable hproduct
    have htouched := (grows_made fs j.output).touched_put hwritable out
    -- The other jobs read what they would have read in the beginning.
    have hjobs' : InTurn fs ([j] ++ jobs) := hjobs
    obtain ⟨hrestJobs, hsame⟩ := hjobs'.of_touched htouched
    obtain ⟨reports, after, hrest, hmore, htouchedRest, hdone⟩ := ih hrestJobs
      (fun k hk old hold => hconverts k hk old (by rw [← hsame k hk, hold])) (hwriteRest out)
    have hleads : (jobs.map fun k => ((fs.made j.output).put l (.file out)).lead k.output) =
        jobs.map fun k => fs.lead k.output :=
      List.map_congr_left fun k _ => htouched.toKeepsDirectories.lead_eq k.output
    rw [hleads] at htouchedRest
    refine ⟨⟨j.input, j.output, outcome⟩ :: reports, after, ?_, hmore,
      htouched.trans htouchedRest, .cons ?_ ?_⟩
    · rw [convertJobs] at hrest
      rw [convertJobs, List.mapM_cons, runOn_bind, hrun]
      simp only [runOn_bind, hrest, runOn_pure]
    · -- No job that follows writes into this output.
      have hl : l = fs.lead j.output := by
        rw [hwritable.eq_lead, (grows_made fs j.output).keepsDirectories.lead_eq]
      have hnot : l ∉ jobs.map fun k => fs.lead k.output := by
        rw [hl]
        exact (List.nodup_cons.mp hjobs.distinct).1
      exact ⟨content, out, outcome, hcontent, hproduct, contentAt_eq_ok_iff.mpr
        ⟨l, htouchedRest.locate hnot (hwritable.locate_put out)⟩, rfl⟩
    · exact Done.congr hdone (fun k hk => (hsame k hk).symm) fun _ _ => rfl

/-- **A job whose directives are at fault stops the run** behind the jobs in front of it. -/
theorem convertJobs_eq_error (hjobs : InTurn fs (before ++ j :: rest))
    (hconverts : ∀ k ∈ before, ∀ content, fs.contentAt k.input = .ok content →
      ∃ out, c.converted k.input.fileName? content = .ok out)
    (hwrite : fs.CanWrite (before.map (·.output))) {t : Text} {d : Diagnostic}
    (htext : fs.textAt j.input = .ok t)
    (hlines : c.convertLines j.input.fileName? (Text.lines t) = .error d) :
    ∃ mid, (c.convertJobs (before ++ j :: rest)).runOn fs = (.error (.directives d), mid) ∧
      Touched (before.map fun k => fs.lead k.output) fs mid := by
  have hfront : InTurn fs before := by
    refine ⟨fun k hk => ?_, ?_⟩
    · obtain ⟨m, content, hm, hne⟩ := hjobs.found k (List.mem_append_left _ hk)
      exact ⟨m, content, hm, fun i hi => hne i (List.mem_append_left _ hi)⟩
    · have hdistinct := hjobs.distinct
      rw [List.map_append] at hdistinct
      exact (List.nodup_append.mp hdistinct).1
  have hwrite' : fs.CanWrite (before.map (·.output) ++ []) := by rwa [List.append_nil]
  obtain ⟨reports, mid, hrun, -, htouched, -⟩ := convertJobs_of_canWrite hfront hconverts hwrite'
  -- The text is there still when its turn comes.
  obtain ⟨content, hcontent, htextOf⟩ := textAt_eq_ok_iff.mp htext
  have hsame := (hjobs.of_touched htouched).2 j List.mem_cons_self
  have htextMid : mid.textAt j.input = .ok t :=
    textAt_eq_ok_iff.mpr ⟨content, by rw [hsame, hcontent], htextOf⟩
  have hfault : (c.convertFile j.input j.output).runOn mid = (.error (.directives d), mid) :=
    runOn_convertFileNamed_of_error htextMid hlines
  refine ⟨mid, ?_, htouched⟩
  rw [convertJobs] at hrun
  rw [convertJobs, List.mapM_append, runOn_bind, hrun]
  simp only [List.mapM_cons, runOn_bind, hfault]

end Converter

/-! ## §4 The jobs of a directory -/

namespace FileSystem

variable {fs : FileSystem} {l : Location} {names : List Text}

/-- The files beneath a place, which may be the root. -/
theorem mem_filesBeneath (hroot : fs.entries.get? [] = none) :
    names ∈ fs.filesBeneath l ↔ ∃ content, fs.at? (l ++ names) = some (.file content) := by
  by_cases hl : l = []
  · subst hl
    rw [filesBeneath, List.mem_filterMap]
    constructor
    · rintro ⟨⟨k, e⟩, hmem, hk⟩
      cases e with
      | directory => cases hk
      | file content =>
        obtain rfl : k = names := by simpa using hk
        have hget := Dictionary.get?_eq_some_iff.mpr hmem
        refine ⟨content, ?_⟩
        by_cases hnil : k = []
        · rw [hnil, hroot] at hget
          cases hget
        · rwa [List.nil_append, at?_of_ne_nil hnil]
    · rintro ⟨content, hat⟩
      have hnil : names ≠ [] := by
        rintro rfl
        simp at hat
      rw [List.nil_append, at?_of_ne_nil hnil] at hat
      exact ⟨(names, .file content), Dictionary.get?_eq_some_iff.mp hat, by simp⟩
  · exact mem_filesBeneath_iff hl

/-- The files beneath a directory are told by names. -/
theorem isName_of_mem_filesBeneath (hsound : fs.Sound) (hroot : fs.entries.get? [] = none)
    (hl : fs.at? l = some .directory) (h : names ∈ fs.filesBeneath l) :
    names ≠ [] ∧ ∀ s ∈ names, IsName s := by
  obtain ⟨content, hat⟩ := (mem_filesBeneath hroot).mp h
  refine ⟨?_, fun s hs => hsound.named _ _ hat s (List.mem_append_right _ hs)⟩
  rintro rfl
  rw [List.append_nil, hl] at hat
  cases hat

theorem nodup_filesBeneath (fs : FileSystem) (l : Location) : (fs.filesBeneath l).Nodup := by
  refine List.Pairwise.filterMap _ ?_ fs.entries.ordered
  rintro ⟨k, e⟩ ⟨k', e'⟩ hlt names hnames names' hnames' rfl
  cases e with
  | directory => cases hnames
  | file content =>
    cases e' with
    | directory => cases hnames'
    | file content' =>
      simp only [Option.ite_none_right_eq_some, List.isPrefixOf_iff_prefix, Option.some.injEq]
        at hnames hnames'
      obtain ⟨⟨rest, rfl⟩, hrest⟩ := hnames
      obtain ⟨⟨rest', rfl⟩, hrest'⟩ := hnames'
      rw [List.drop_left] at hrest hrest'
      rw [hrest, hrest'] at hlt
      exact List.lt_irrefl _ hlt

end FileSystem

namespace Job

open FileSystem

variable {fs : FileSystem} {root target : Path} {l : Location}

theorem firstOfEach_of_nodup (seen : List (List Text)) {files : List SourceFile}
    (hnew : ∀ f ∈ files, f.names ∉ seen) (hnodup : (files.map (·.names)).Nodup) :
    firstOfEach seen files = files := by
  induction files generalizing seen with
  | nil => rfl
  | cons f files ih =>
    obtain ⟨hf, hfiles⟩ := List.forall_mem_cons.mp hnew
    obtain ⟨hnotin, hnodup⟩ := List.nodup_cons.mp hnodup
    rw [firstOfEach, if_neg hf, ih _ (fun g hg => ?_) hnodup]
    intro hmem
    rcases List.mem_cons.mp hmem with hsame | hmem
    · exact hnotin (List.mem_map.mpr ⟨g, hg, hsame⟩)
    · exact hfiles g hg hmem

/-- The jobs that convert the files beneath a place into a target. -/
def ofDirectory (fs : FileSystem) (l : Location) (root target : Path) : List Job :=
  (fs.filesBeneath l).map fun names => ⟨root.along names, target.along names⟩

/-- A directory is a source whose files differ by their names. -/
theorem ofSources_directory (h : fs.locate root = .ok (l, .directory)) :
    ofSources fs [root] target = .ok (ofDirectory fs l root target) := by
  have hfiles : fs.sourceFiles root =
      .ok ((fs.filesBeneath l).map fun names => ⟨root.along names, names⟩) := by
    rw [sourceFiles, h]
  have hnodup : (((fs.filesBeneath l).map fun names =>
      (⟨root.along names, names⟩ : SourceFile)).map (·.names)).Nodup := by
    rw [List.map_map]
    simpa [Function.comp_def] using nodup_filesBeneath fs l
  have hfirst := firstOfEach_of_nodup [] (fun f _ => List.not_mem_nil) hnodup
  rw [ofSources, List.mapM_cons, hfiles, List.mapM_nil]
  change Except.ok ((firstOfEach [] (_ ++ [])).map _) = _
  rw [List.append_nil, hfirst, List.map_map]
  rfl

/-- The files of a directory are in turn if the target holds none. -/
theorem inTurn_of_emptied (target : Path) (hsound : fs.Sound)
    (hroot : fs.entries.get? [] = none) (hlocate : fs.locate root = .ok (l, .directory))
    (hempty : fs.filesBeneath (fs.lead target) = []) :
    InTurn fs (ofDirectory fs l root target) := by
  have hdir := (locate_eq_ok_iff.mp hlocate).2.2
  have hleads : (ofDirectory fs l root target).map (fun j => fs.lead j.output) =
      (fs.filesBeneath l).map (fs.lead target ++ ·) := by
    rw [ofDirectory, List.map_map]
    exact List.map_congr_left fun names hnames =>
      lead_along fs target (isName_of_mem_filesBeneath hsound hroot hdir hnames).2
  refine ⟨fun j hj => ?_, ?_⟩
  · obtain ⟨names, hnames, rfl⟩ := List.mem_map.mp hj
    obtain ⟨content, hat⟩ := (mem_filesBeneath hroot).mp hnames
    refine ⟨_, content, locate_along hsound hlocate hat, fun k hk hsame => ?_⟩
    have hmem : fs.lead k.output ∈ (fs.filesBeneath l).map (fs.lead target ++ ·) :=
      hleads ▸ List.mem_map_of_mem hk
    obtain ⟨names', -, hnames'⟩ := List.mem_map.mp hmem
    rw [hsame, ← hnames'] at hat
    simpa [hempty] using (mem_filesBeneath hroot).mpr ⟨content, hat⟩
  · rw [hleads]
    exact (nodup_filesBeneath fs l).map fun _ _ hsame => List.append_cancel_left hsame

end Job

/-! ## §5 Batches with one source -/

open FileSystem

/-- A directory that can be processed into a target: what is left when the target is cleared
holds the directory, and no file of the target. -/
structure Batch.Open (fs : FileSystem) (root target : Path) (bare : FileSystem) (l : Location) :
    Prop where
  accepted : fs.checkSource target root = .ok ()
  cleared : (Batch.clear target).runOn fs = (.ok (), bare)
  sound : bare.Sound
  /-- The root of a file system is always there, without an entry. -/
  rootless : bare.entries.get? [] = none
  located : bare.locate root = .ok (l, .directory)
  emptied : bare.filesBeneath (bare.lead target) = []

section Summary

variable {fs : FileSystem} {target file : Path}

/-- The summary lies beside the target. -/
theorem Batch.lead_summaryFile? (fs : FileSystem) (hfile : summaryFile? target = some file) :
    ∃ name, target.fileName? = some name ∧
      fs.lead target = fs.lead target.directory ++ [name] ∧
      fs.lead file = fs.lead target.directory ++ [name ++ Text.ofString ".txt"] ∧
      IsName (name ++ Text.ofString ".txt") ∧
      file = target.directory.join (.single (name ++ Text.ofString ".txt")) := by
  rw [summaryFile?] at hfile
  obtain ⟨name, hname, rfl⟩ := Option.map_eq_some_iff.mp hfile
  have hisName : IsName (name ++ Text.ofString ".txt") := by
    refine isName_of_length ?_
    rw [List.length_append]
    change 2 < name.length + 4
    omega
  exact ⟨name, hname, lead_directory fs hname, lead_join_single fs _ hisName, hisName, rfl⟩

/-- The summary lies at no place of the target. -/
theorem Batch.lead_summaryFile?_ne (fs : FileSystem) (hfile : summaryFile? target = some file)
    (names : List Text) : fs.lead file ≠ fs.lead target ++ names := by
  obtain ⟨name, -, htarget, hsummary, -⟩ := lead_summaryFile? fs hfile
  rw [htarget, hsummary, List.append_assoc]
  intro hsame
  -- Both places have as many names, or the summary has fewer.
  have hcons := List.append_cancel_left hsame
  have hlength := congrArg List.length (List.cons.inj hcons).1
  rw [List.length_append] at hlength
  change name.length + 4 = name.length at hlength
  omega

/-- The summary is written in the directory of the target. -/
theorem Batch.writeSummary_of_canWrite (sources : List Path) (total : Nat)
    (hdir : ∀ name, target.fileName? = some name → fs.isDirectory target.directory = true)
    (hwrite : fs.CanWrite (summaryFile? target).toList) :
    ∃ after, (writeSummary sources target total).runOn fs = (.ok (), after) ∧
      Touched ((summaryFile? target).toList.map fs.lead) fs after := by
  rw [writeSummary]
  cases hfile : summaryFile? target with
  | none => exact ⟨fs, rfl, .refl fs⟩
  | some file =>
    obtain ⟨name, hname, -, -, hisName, hjoin⟩ := lead_summaryFile? fs hfile
    have hdir := hdir name hname
    obtain ⟨place, hplace⟩ := isDirectory_eq_true_iff.mp hdir
    have hslot := slot_join_single hisName hplace
    rw [← hjoin] at hslot
    rw [hfile] at hwrite
    obtain ⟨l, hwritable, -⟩ := hwrite
    rw [made_of_slot hslot] at hwritable
    rcases runOn_write_cases file (bytesOf (summary sources target total)) fs with
      ⟨l', hwritable', hrun⟩ | ⟨hnot, -⟩
    · refine ⟨fs.put l' (.file (bytesOf (summary sources target total))), ?_,
        (Grows.refl file fs).touched_put hwritable' _⟩
      simp only [runOn_bind, runOn_orElse, createAll_of_isDirectory hdir, Except.mapError, hrun]
    · exact absurd hwritable (hnot l)

end Summary

namespace Converter

variable {c : Converter} {fs bare : FileSystem} {root target : Path} {l : Location}

/-- Behind its first stages a batch converts the files of its source. -/
theorem runOn_process_of_open (c : Converter) (h : Batch.Open fs root target bare l) :
    (c.process [root] target).runOn fs =
      (do let reports ← c.convertJobs (Job.ofDirectory bare l root target)
          Batch.writeSummary [root] target reports.length
          return reports : FileAction Failure (List FileReport)).runOn bare := by
  have hcheck : [root].forM (fs.checkSource target) = .ok () := by
    change (fs.checkSource target root >>= fun _ => pure ()) = .ok ()
    rw [h.accepted]
    rfl
  have hjobs : Job.ofSources bare [root] target = .ok _ := Job.ofSources_directory h.located
  rw [process, if_neg (by simp), runOn_bind, runOn_askOr, hcheck]
  simp only [runOn_bind, h.cleared, runOn_askOr, hjobs]

/-- A batch with one directory succeeds if everything can be written and no directives are at
fault. -/
theorem process_of_canWrite (h : Batch.Open fs root target bare l)
    (hfiles : bare.filesBeneath l ≠ [])
    (hconverts : ∀ j ∈ Job.ofDirectory bare l root target, ∀ content,
      bare.contentAt j.input = .ok content →
        ∃ out, c.converted j.input.fileName? content = .ok out)
    (hwrite : bare.CanWrite ((Job.ofDirectory bare l root target).map (·.output) ++
      (Batch.summaryFile? target).toList)) :
    ∃ reports after, (c.process [root] target).runOn fs = (.ok reports, after) ∧
      List.Forall₂ (Job.Done c bare after) (Job.ofDirectory bare l root target) reports := by
  have hjobs := Job.inTurn_of_emptied target h.sound h.rootless h.located h.emptied
  obtain ⟨reports, filled, hrun, hsummary, htouched, hdone⟩ :=
    convertJobs_of_canWrite hjobs hconverts hwrite
  have hat := (locate_eq_ok_iff.mp h.located).2.2
  have hnames (names : List Text) (hmem : names ∈ bare.filesBeneath l) :=
    isName_of_mem_filesBeneath h.sound h.rootless hat hmem
  have houtputs : ∀ names ∈ bare.filesBeneath l, ∃ out,
      filled.locate (target.along names) = .ok (filled.lead target ++ names, .file out) := by
    intro names hmem
    obtain ⟨report, ⟨content, out, outcome, -, -, hout, -⟩, -⟩ :=
      Job.filter_of_done hdone hjobs.nodup_outputs (List.mem_map_of_mem hmem)
    obtain ⟨place, hplace⟩ := contentAt_eq_ok_iff.mp hout
    obtain rfl := eq_lead_of_locate hplace
    rw [lead_along filled target (hnames names hmem).2] at hplace
    exact ⟨out, hplace⟩
  -- An output lies in the target, so the directory of that is there.
  have hdir : ∀ name, target.fileName? = some name →
      filled.isDirectory target.directory = true := by
    intro name hname
    obtain ⟨names, hmem⟩ := List.exists_mem_of_ne_nil _ hfiles
    obtain ⟨out, hout⟩ := houtputs names hmem
    exact isDirectory_directory_of_locate_along (htouched.sound h.sound) hname
      (hnames names hmem).1 (hnames names hmem).2 hout
  obtain ⟨after, hlast, hbeside⟩ :=
    Batch.writeSummary_of_canWrite [root] reports.length hdir hsummary
  refine ⟨reports, after, ?_, ?_⟩
  · rw [runOn_process_of_open c h]
    simp only [runOn_bind, hrun, hlast, runOn_pure]
  · refine Job.Done.congr hdone (fun _ _ => rfl) fun j hj => ?_
    obtain ⟨names, hmem, rfl⟩ := List.mem_map.mp hj
    obtain ⟨out, hplace⟩ := houtputs names hmem
    refine hbeside.contentAt (fun hsame => ?_) hplace
    obtain ⟨file, hfile, hlead⟩ := List.mem_map.mp hsame
    exact Batch.lead_summaryFile?_ne filled (Option.mem_toList.mp hfile) names hlead

/-- Directives of a file that are at fault stop a batch with one directory. -/
theorem process_eq_error (h : Batch.Open fs root target bare l) {before rest : List (List Text)}
    {names : List Text} (hfiles : bare.filesBeneath l = before ++ names :: rest)
    (hconverts : ∀ other ∈ before, ∀ content, bare.contentAt (root.along other) = .ok content →
      ∃ out, c.converted (root.along other).fileName? content = .ok out)
    (hwrite : bare.CanWrite (before.map target.along)) {t : Text} {d : Diagnostic}
    (htext : bare.textAt (root.along names) = .ok t)
    (hlines : c.convertLines (root.along names).fileName? (Text.lines t) = .error d) :
    ∃ mid, (c.process [root] target).runOn fs = (.error (.directives d), mid) ∧
      ∀ content, mid.contentAt (target.along names) ≠ .ok content := by
  have hjobs := Job.inTurn_of_emptied target h.sound h.rootless h.located h.emptied
  have hsplit : Job.ofDirectory bare l root target =
      before.map (fun other => ⟨root.along other, target.along other⟩) ++
        ⟨root.along names, target.along names⟩ ::
          rest.map fun other => ⟨root.along other, target.along other⟩ := by
    rw [Job.ofDirectory, hfiles, List.map_append, List.map_cons]
  rw [hsplit] at hjobs
  obtain ⟨mid, hrun, htouched⟩ := convertJobs_eq_error hjobs
    (List.forall_mem_map.mpr hconverts) (by simpa [Function.comp_def] using hwrite) htext hlines
  refine ⟨mid, ?_, fun content hcontent => ?_⟩
  · rw [runOn_process_of_open c h, hsplit]
    simp only [runOn_bind, hrun]
  · -- Nothing was written there, and nothing was there before.
    obtain ⟨place, hplace⟩ := contentAt_eq_ok_iff.mp hcontent
    obtain rfl := eq_lead_of_locate hplace
    have hdistinct := hjobs.distinct
    rw [List.map_append, List.map_cons] at hdistinct
    have hnot := (List.nodup_cons.mp (List.perm_middle.nodup_iff.mp hdistinct)).1
    have hlead := htouched.toKeepsDirectories.lead_eq (target.along names)
    have hbare := (htouched.file_iff _ (hlead ▸ fun hmem => hnot (List.mem_append_left _ hmem))
      content).mp (locate_eq_ok_iff.mp hplace).2.2
    have hat := (locate_eq_ok_iff.mp h.located).2.2
    have hmem : names ∈ bare.filesBeneath l := by simp [hfiles]
    rw [hlead, lead_along bare target
      (isName_of_mem_filesBeneath h.sound h.rootless hat hmem).2] at hbare
    simpa [h.emptied] using (mem_filesBeneath h.rootless).mpr ⟨content, hbare⟩

end Converter

end CommentSwitch
