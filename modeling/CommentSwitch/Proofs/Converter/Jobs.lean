import CommentSwitch.Converter.Batch
import CommentSwitch.Proofs.Converter.Runs
import CommentSwitch.Proofs.Files.Leads

/-!
# Runs of jobs

Jobs write their outputs one after the other, each in directories that may be missing.  No
output is in the way of another one, and none is in the way of the inputs.

- `FileSystem.Filled`: some files are written, and everything else stays
- `Converter.converted`: what the conversion of a file is to write
- `Converter.convertFile_eq_ok`: a job that succeeds has written that
- `Converter.convertJobs_eq_ok`: so have all jobs of a run, and they have written nothing else
-/

namespace CommentSwitch

open FileAction

/-! ## §1 Files that are filled in -/

namespace FileSystem

variable {fs mid after : FileSystem} {p q input output target : Path}
  {places places' : List Location}

/-- Files are written at some places, with the directories on the way there that were missing,
and everything else stays. -/
structure Filled (places : List Location) (fs after : FileSystem) : Prop
    extends KeepsDirectories fs after where
  sound : fs.Sound → after.Sound
  file_iff : ∀ l ∉ places, ∀ content,
    after.at? l = some (.file content) ↔ fs.at? l = some (.file content)
  on_way : ∀ l, after.at? l = some .directory →
    fs.at? l = some .directory ∨ ∃ place ∈ places, l <+: place

theorem Filled.refl (fs : FileSystem) : Filled [] fs fs :=
  ⟨.refl fs, id, fun _ _ _ => .rfl, fun _ h => .inl h⟩

/-- No file changes but at the places. -/
theorem Filled.touched (h : Filled places fs after) : Touched places fs after :=
  ⟨h.toKeepsDirectories, h.sound, h.file_iff⟩

theorem Filled.trans (h : Filled places fs mid) (h' : Filled places' mid after) :
    Filled (places ++ places') fs after where
  toKeepsDirectories := h.toKeepsDirectories.trans h'.toKeepsDirectories
  sound := (h.touched.trans h'.touched).sound
  file_iff := (h.touched.trans h'.touched).file_iff
  on_way l hl := by
    rcases h'.on_way l hl with hmid | ⟨place, hplace, hway⟩
    · rcases h.on_way l hmid with hfs | ⟨place, hplace, hway⟩
      · exact .inl hfs
      · exact .inr ⟨place, List.mem_append_left _ hplace, hway⟩
    · exact .inr ⟨place, List.mem_append_right _ hplace, hway⟩

/-- What a path leads to stays unless something else is written there. -/
theorem Filled.locate (h : Filled places fs after) {l : Location} {content : ByteArray}
    (hl : l ∉ places) (hp : fs.locate p = .ok (l, .file content)) :
    after.locate p = .ok (l, .file content) :=
  h.touched.locate hl hp

/-- A file is written behind directories that have appeared on the way to it. -/
theorem Grows.filled_put (h : Grows q fs mid) (hq : q.Plain) (hp : p.Plain)
    (hway : fs.place q <+: fs.place p) {l : Location} (hwritable : mid.Writable p l)
    (content : ByteArray) : Filled [fs.place p] fs (mid.put l (.file content)) := by
  have hl : l = fs.place p := by
    rw [hwritable.eq_place hp, h.keepsDirectories.place_eq]
  -- A plain path leads to the place that it says.
  have hlead : fs.lead p = fs.place p := by
    rw [← hl, hwritable.eq_lead, h.keepsDirectories.lead_eq]
  have htouched := h.touched_put hwritable content
  rw [hlead] at htouched
  refine ⟨htouched.toKeepsDirectories, htouched.sound, htouched.file_iff, ?_⟩
  intro m hm
  rw [at?_put hwritable.ne_nil] at hm
  split at hm
  · cases hm
  · refine (h.directory_or_passes hm).imp_right fun hpasses => ?_
    have hprefix := hpasses.prefix_place hq
    rw [h.keepsDirectories.place_eq] at hprefix
    exact ⟨_, List.mem_singleton_self _, hprefix.trans hway⟩

/-- Paths that stand for one file say one place. -/
theorem place_eq_of_isSameFile (hinput : input.Plain) (houtput : output.Plain)
    (h : fs.isSameFile input output = true) : fs.place input = fs.place output := by
  rcases Bool.or_eq_true_iff.mp h with halike | hplace
  · have hnames : input.names = output.names := by
      simp only [Path.isSame, Bool.and_eq_true, beq_iff_eq] at halike
      exact halike.2
    rw [place, place, hnames]
  · obtain ⟨l, e, hl, hl'⟩ := isSamePlace_eq_true_iff.mp hplace
    rw [← eq_place_of_locate hinput hl, eq_place_of_locate houtput hl']

theorem place_along (fs : FileSystem) (p : Path) {names : List Text}
    (hnames : ∀ s ∈ names, IsName s) : fs.place (p.along names) = fs.place p ++ names := by
  rw [place, Path.names_along p fun s hs => (hnames s hs).1, ← List.append_assoc, place]

end FileSystem

/-! ## §2 Jobs -/

namespace Converter

open FileSystem

variable {c : Converter} {input output target : Path} {fs after : FileSystem}

/-- What the conversion of a file is to write, given the name and the content of that. -/
def converted (c : Converter) (name : Option Text) (content : ByteArray) :
    Except Diagnostic ByteArray :=
  match textOf? content with
  | none => .ok content
  | some t => (c.convertLines name (Text.lines t)).map fun lines => bytesOf (Text.unlines lines)

/-- A conversion that succeeds, from one place to another, has written what it is to write. -/
theorem convertFile_eq_ok (hsound : fs.Sound) (hinput : input.Plain) (houtput : output.Plain)
    {l : Location} {content : ByteArray} (hlocate : fs.locate input = .ok (l, .file content))
    (hne : l ≠ fs.place output) {report : FileReport}
    (h : (c.convertFile input output).runOn fs = (.ok report, after)) :
    report.output = output ∧ Filled [fs.place output] fs after ∧
      ∃ out, c.converted input.fileName? content = .ok out ∧
        after.at? (fs.place output) = some (.file out) := by
  have hran := ran_convertFileNamed c input.fileName? input output hsound
  rw [show (c.convertFileNamed input.fileName? input output).runOn fs = _ from h] at hran
  have hgrows := grows_made fs output
  have hcontent : fs.contentAt input = .ok content := contentAt_eq_ok_iff.mpr ⟨l, hlocate⟩
  have hplace : (fs.made output).place output = fs.place output :=
    hgrows.keepsDirectories.place_eq output
  generalize hresult : Except.ok report = result at hran
  cases hran with
  | @written t lines l' htext hlines hwritable =>
    obtain ⟨content', hcontent', htextOf⟩ := textAt_eq_ok_iff.mp htext
    obtain rfl : content' = content := Except.ok.inj (hcontent'.symm.trans hcontent)
    have hl' : l' = fs.place output := by rw [hwritable.eq_place houtput, hplace]
    cases hresult
    refine ⟨rfl, hgrows.filled_put houtput houtput (List.prefix_refl _) hwritable _,
      bytesOf (Text.unlines lines), ?_, ?_⟩
    · rw [converted, htextOf]
      simp only [hlines, Except.map]
    · rw [← hl']
      exact at?_put_self hwritable.ne_nil _
  | kept hsame =>
    -- The two paths say different places, so they do not stand for one file.
    exfalso
    apply hne
    rw [eq_place_of_locate hinput hlocate]
    exact place_eq_of_isSameFile hinput houtput hsame
  | @copied fault m l' content' hfault hsame hread hwritable =>
    obtain ⟨rfl, rfl⟩ : l = m ∧ content = content' := by
      simpa [hread, eq_comm] using hgrows.locate hlocate
    have hl' : l' = fs.place output := by rw [hwritable.eq_place houtput, hplace]
    -- The file is there, so the only fault can be that it is no text.
    have htextOf : textOf? content = none := by
      cases htextOf : textOf? content with
      | none => rfl
      | some t =>
        have htext := textAt_eq_ok_iff.mpr ⟨content, hcontent, htextOf⟩
        rw [htext] at hfault
        cases hfault
    cases hresult
    rw [if_neg (hl' ▸ hne)]
    refine ⟨rfl, hgrows.filled_put houtput houtput (List.prefix_refl _) hwritable _, content,
      ?_, ?_⟩
    · rw [converted, htextOf]
    · rw [← hl']
      exact at?_put_self hwritable.ne_nil _
  | refused htext hlines => cases hresult
  | failed hother => cases hresult

end Converter

/-- A file that can be converted into a target: it is there, apart from the target, under its
own name. -/
structure SourceFile.Held (fs : FileSystem) (target : Path) (f : SourceFile) : Prop where
  plain : f.path.Plain
  found : ∃ l content, fs.locate f.path = .ok (l, .file content) ∧ ¬ fs.place target <+: l
  named : f.names ≠ [] ∧ ∀ s ∈ f.names, FileSystem.IsName s
  fileName?_eq : f.path.fileName? = f.names.getLast?

namespace SourceFile

variable {fs after : FileSystem} {target : Path} {f : SourceFile} {names : List Text}

/-- Inputs stay where they are while the target is filled. -/
theorem Held.locate_of_filled (h : f.Held fs target)
    (hfilled : FileSystem.Filled [fs.place target ++ names] fs after) :
    ∃ l content, fs.locate f.path = .ok (l, .file content) ∧ ¬ fs.place target <+: l ∧
      after.locate f.path = .ok (l, .file content) := by
  obtain ⟨l, content, hlocate, hapart⟩ := h.found
  have hl : l ∉ [fs.place target ++ names] := by
    rw [List.mem_singleton]
    rintro rfl
    exact hapart (List.prefix_append _ _)
  exact ⟨l, content, hlocate, hapart, hfilled.locate hl hlocate⟩

theorem Held.of_filled (h : f.Held fs target)
    (hfilled : FileSystem.Filled [fs.place target ++ names] fs after) : f.Held after target := by
  obtain ⟨l, content, -, hapart, hlocate⟩ := h.locate_of_filled hfilled
  refine ⟨h.plain, ⟨l, content, hlocate, ?_⟩, h.named, h.fileName?_eq⟩
  rwa [hfilled.toKeepsDirectories.place_eq target]

/-- Files with different names lie at different places of a target. -/
theorem append_mem_map_iff {place : Location} {files : List SourceFile} :
    place ++ names ∈ files.map (fun f => place ++ f.names) ↔ names ∈ files.map (·.names) := by
  simp

end SourceFile

namespace Converter

open FileSystem

variable {c : Converter} {target : Path} {fs after : FileSystem}

/-- Jobs that succeed have written what they are to write, and nothing else. -/
theorem convertJobs_eq_ok (htarget : target.Plain) {files : List SourceFile}
    (hsound : fs.Sound) (hheld : ∀ f ∈ files, f.Held fs target)
    (hnodup : (files.map (·.names)).Nodup) {reports : List FileReport}
    (h : (c.convertJobs (files.map fun f => ⟨f.path, target.along f.names⟩)).runOn fs =
      (.ok reports, after)) :
    reports.map (·.output) = files.map (fun f => target.along f.names) ∧
      Filled (files.map fun f => fs.place target ++ f.names) fs after ∧
      ∀ f ∈ files, ∃ l content out, fs.locate f.path = .ok (l, .file content) ∧
        c.converted f.names.getLast? content = .ok out ∧
        after.at? (fs.place target ++ f.names) = some (.file out) := by
  -- The inputs of the jobs that are left are there after each job, unchanged.
  induction files generalizing fs reports with
  | nil =>
    cases h
    exact ⟨rfl, .refl _, nofun⟩
  | cons f files ih =>
    obtain ⟨hf, hfiles⟩ := List.forall_mem_cons.mp hheld
    obtain ⟨hnotin, hnodup⟩ := List.nodup_cons.mp hnodup
    rw [convertJobs, List.map_cons, List.mapM_cons, runOn_bind_eq_ok_iff] at h
    obtain ⟨report, mid, hfirst, h⟩ := h
    rw [runOn_bind_eq_ok_iff] at h
    obtain ⟨reports, last, hrest, h⟩ := h
    cases h
    obtain ⟨l, content, hlocate, hapart⟩ := hf.found
    have hplace := fs.place_along target hf.named.2
    have houtput : (target.along f.names).Plain :=
      htarget.along fun hdots => (hf.named.2 _ hdots).2 rfl
    have hne : l ≠ fs.place (target.along f.names) := by
      rw [hplace]
      rintro rfl
      exact hapart (List.prefix_append _ _)
    obtain ⟨hreport, hfilled, out, hconverted, hout⟩ :=
      convertFile_eq_ok hsound hf.plain houtput hlocate hne hfirst
    rw [hplace] at hfilled hout
    have hstart : mid.place target = fs.place target :=
      hfilled.toKeepsDirectories.place_eq target
    obtain ⟨hreports, hfilledRest, hholds⟩ := ih (hfilled.sound hsound)
      (fun g hg => (hfiles g hg).of_filled hfilled) hnodup hrest
    rw [hstart] at hfilledRest hholds
    refine ⟨by simp [hreport, hreports], hfilled.trans hfilledRest, fun g hg => ?_⟩
    rcases List.mem_cons.mp hg with rfl | hg
    · -- The jobs that follow write elsewhere.
      have hnot : fs.place target ++ g.names ∉
          files.map fun f => fs.place target ++ f.names :=
        fun hmem => hnotin (SourceFile.append_mem_map_iff.mp hmem)
      refine ⟨l, content, out, hlocate, ?_, (hfilledRest.file_iff _ hnot _).mpr hout⟩
      rwa [← hf.fileName?_eq]
    · obtain ⟨m, old, out', hm, hconverted', hout'⟩ := hholds g hg
      obtain ⟨m', old', hm', -, hkept⟩ := (hfiles g hg).locate_of_filled hfilled
      obtain ⟨rfl, rfl⟩ : m' = m ∧ old' = old := by simpa [hkept] using hm
      exact ⟨m', old', out', hm', hconverted', hout'⟩

end Converter

end CommentSwitch
