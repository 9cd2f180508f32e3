import CommentSwitch.Proofs.Converter.Sources
import CommentSwitch.Proofs.Keywords.Validation

/-!
# Batches

What a batch does when it succeeds: the target is cleared, the earliest contributions of the
sources are converted into it, and a summary is written beside it.

- `Batch.clear_eq_ok`, `Batch.writeSummary_eq_ok`: what the first and the last stage leave
- `Converter.process_eq_ok`: the stages, one after the other
- `Converter.carried_of_process`: what is known after each of them
-/

namespace CommentSwitch

open FileAction FileSystem

/-! ## §1 The target is cleared -/

namespace FileSystem

variable {fs after : FileSystem} {target : Path}

/-- Nothing is left beneath a target, and everything else stays. -/
structure Cleared (target : Path) (fs after : FileSystem) : Prop where
  start_eq : after.start = fs.start
  sound : after.Sound
  apart : ∀ l, ¬ fs.place target <+: l → after.at? l = fs.at? l
  empty : ∀ names, names ≠ [] → after.at? (fs.place target ++ names) = none

theorem cleared_of_not_isThere (hsound : fs.Sound) (htarget : target.Plain)
    (hnames : target.names ≠ []) (h : fs.isThere target = false) : Cleared target fs fs where
  start_eq := rfl
  sound := hsound
  apart _ _ := rfl
  empty names hne := by
    cases hat : fs.at? (fs.place target ++ names) with
    | none => rfl
    | some e =>
      have hdir := hsound.at?_of_append hne hat
      rw [isThere, locate_of_directory hsound htarget hnames hdir] at h
      cases h

theorem cleared_remove (hsound : fs.Sound) (hnames : target.names ≠ []) :
    Cleared target fs (fs.remove (fs.place target)) := by
  have hne : fs.place target ≠ [] := by simp [place, hnames]
  have hstart : ¬ fs.place target <+: fs.start := by
    intro hprefix
    have hlength := hprefix.length_le
    rw [place, List.length_append] at hlength
    have hpos := List.length_pos_of_ne_nil hnames
    omega
  refine ⟨rfl, hsound.remove hne hstart, fun l hl => ?_, fun names _ => ?_⟩
  · rw [at?_remove hne, if_neg hl]
  · rw [at?_remove hne, if_pos (List.prefix_append _ _)]

end FileSystem

namespace Batch

variable {fs after : FileSystem} {sources : List Path} {target : Path} {total : Nat}

theorem clear_eq_ok (hsound : fs.Sound) (htarget : target.Plain) (hnames : target.names ≠ [])
    (h : (clear target).runOn fs = (.ok (), after)) : Cleared target fs after := by
  rw [clear, runOn_bind, runOn_ask] at h
  cases hthere : fs.isThere target with
  | false =>
    simp only [hthere, Bool.false_eq_true, if_false] at h
    cases h
    exact cleared_of_not_isThere hsound htarget hnames hthere
  | true =>
    simp only [hthere, if_true] at h
    rw [runOn_orElse_eq_ok_iff, removeAll, runOn_bind_eq_ok_iff] at h
    obtain ⟨⟨l, e⟩, mid, hlocate, h⟩ := h
    obtain ⟨hlocate, rfl⟩ := runOn_askOr_eq_ok_iff.mp hlocate
    rw [runOn_bind_eq_ok_iff] at h
    obtain ⟨slot, mid, hslot, h⟩ := h
    obtain ⟨hslot, rfl⟩ := runOn_askOr_eq_ok_iff.mp hslot
    obtain rfl := eq_place_of_locate htarget hlocate
    cases e with
    | file content => cases h
    | directory =>
      cases slot with
      | named place slashed =>
        cases h
        exact cleared_remove hsound hnames
      | dots => cases h
      | root => cases h

/-! ## §2 The summary -/

theorem isName_of_length {s : Text} (h : 2 < s.length) : IsName s := by
  refine isName_iff.mpr ⟨?_, ?_⟩
  · rintro rfl
    simp at h
  · rintro (rfl | rfl) <;> simp [Path.dot, Path.dots] at h

/-- The summary lies beside the target, under another name. -/
theorem summaryFile?_eq_some (htarget : target.Plain) (hnames : target.names ≠ []) :
    ∃ file name, summaryFile? target = some file ∧ file.Plain ∧ file.Apart target ∧
      file.names = target.names.dropLast ++ [name] := by
  obtain ⟨init, last, hconcat⟩ := (List.eq_nil_or_concat' target.names).resolve_left hnames
  have hlast : target.fileName? = some last := by
    rw [htarget.fileName?_eq, hconcat, List.getLast?_concat]
  have hisName : IsName (last ++ Text.ofString ".txt") := by
    refine isName_of_length ?_
    rw [List.length_append]
    change 2 < last.length + 4
    omega
  have hfile : (target.directory.join (.single (last ++ Text.ofString ".txt"))).names =
      target.names.dropLast ++ [last ++ Text.ofString ".txt"] := by
    rw [Path.names_join_single _ hisName.1, Path.names_directory hnames]
  -- Both paths have as many names, but not the same last one.
  have hlength : (last ++ Text.ofString ".txt").length ≠ last.length := by
    rw [List.length_append]
    change last.length + 4 ≠ last.length
    omega
  refine ⟨_, last ++ Text.ofString ".txt", by rw [summaryFile?, hlast]; rfl,
    htarget.directory.join_single hisName.2, ⟨fun hbegins => ?_, fun hbegins => ?_⟩, hfile⟩
  · rw [hfile, hconcat, List.dropLast_concat] at hbegins
    have heq := List.append_cancel_left (hbegins.eq_of_length (by simp))
    exact hlength (congrArg List.length (List.singleton_inj.mp heq).symm)
  · rw [hfile, hconcat, List.dropLast_concat] at hbegins
    have heq := List.append_cancel_left (hbegins.eq_of_length (by simp))
    exact hlength (congrArg List.length (List.singleton_inj.mp heq))

/-- A summary that is written changes nothing else. -/
theorem writeSummary_eq_ok (htarget : target.Plain) {file : Path}
    (hfile : summaryFile? target = some file) (hplain : file.Plain)
    (hway : fs.place target.directory <+: fs.place file)
    (h : (writeSummary sources target total).runOn fs = (.ok (), after)) :
    Filled [fs.place file] fs after ∧
      after.contentAt file = .ok (bytesOf (summary sources target total)) := by
  rw [writeSummary, hfile] at h
  simp only at h
  rw [runOn_bind_eq_ok_iff] at h
  obtain ⟨_, mid, hcreate, h⟩ := h
  rw [runOn_orElse_eq_ok_iff] at hcreate h
  have hgrows := (created_createAll target.directory fs).grows
  rw [hcreate] at hgrows
  rcases runOn_write_cases file (bytesOf (summary sources target total)) mid with
    ⟨l, hwritable, hwrite⟩ | ⟨-, e, hwrite⟩
  · rw [hwrite] at h
    cases h
    exact ⟨hgrows.filled_put htarget.directory hplain hway hwritable _,
      contentAt_eq_ok_iff.mpr ⟨l, hwritable.locate_put _⟩⟩
  · rw [hwrite] at h
    cases h

end Batch

/-! ## §3 Whole batches -/

namespace Converter

variable {c : Converter} {sources : List Path} {target file : Path}
  {fs bare filled after : FileSystem} {files : List SourceFile} {reports : List FileReport}

/-- A batch that has succeeded, stage by stage. -/
structure Carried (c : Converter) (sources : List Path) (target : Path)
    (fs bare filled after : FileSystem) (files : List SourceFile) (file : Path)
    (reports : List FileReport) : Prop where
  there : ∀ s ∈ sources, fs.isThere s = true
  cleared : Cleared target fs bare
  nodup : (files.map (·.names)).Nodup
  mem_iff : ∀ names, (∃ f ∈ files, f.names = names) ↔ (fs.earliest? sources names).isSome = true
  outputs : reports.map (·.output) = files.map fun f => target.along f.names
  converted : Filled (files.map fun f => fs.place target ++ f.names) bare filled
  holds : ∀ f ∈ files, f.names ≠ [] ∧ ∃ content out,
    fs.earliest? sources f.names = some content ∧
    c.converted f.names.getLast? content = .ok out ∧
    filled.at? (fs.place target ++ f.names) = some (.file out)
  summaryFile : Batch.summaryFile? target = some file
  beside : file.Apart target ∧ ∃ name, file.names = target.names.dropLast ++ [name]
  summarized : Filled [fs.place file] filled after
  summary : after.contentAt file = .ok (bytesOf (Batch.summary sources target reports.length))

/-- The stages of a batch that has succeeded. -/
theorem process_eq_ok (h : (c.process sources target).runOn fs = (.ok reports, after)) :
    sources ≠ [] ∧ (∀ s ∈ sources, fs.isThere s = true) ∧ ∃ bare jobs filled,
      (Batch.clear target).runOn fs = (.ok (), bare) ∧
      Job.ofSources bare sources target = .ok jobs ∧
      (c.convertJobs jobs).runOn bare = (.ok reports, filled) ∧
      (Batch.writeSummary sources target reports.length).runOn filled = (.ok (), after) := by
  rw [process] at h
  split at h
  · cases h
  · next hsources =>
    simp only [runOn_bind_eq_ok_iff, runOn_askOr_eq_ok_iff] at h
    obtain ⟨_, _, ⟨hcheck, rfl⟩, _, _, hclear, jobs, bare, ⟨hjobs, rfl⟩, reports', filled,
      hconvert, _, after', hsummary, hreports⟩ := h
    cases hreports
    refine ⟨by simpa using hsources, fun s hs => ?_, bare, jobs, filled, hclear, hjobs,
      hconvert, hsummary⟩
    have hs' := forall_of_forM hcheck s hs
    rw [checkSource] at hs'
    split at hs'
    · cases hs'
    · next hthere => simpa using hthere

theorem carried_of_process (hsound : fs.Sound) (htarget : target.Plain)
    (hsources : ∀ s ∈ sources, s.Plain ∧ s.Apart target)
    (h : (c.process sources target).runOn fs = (.ok reports, after)) :
    ∃ bare filled files file,
      Carried c sources target fs bare filled after files file reports := by
  obtain ⟨hne, hthere, bare, jobs, filled, hclear, hjobs, hconvert, hsummary⟩ := process_eq_ok h
  -- A target that has no names would be around every source.
  have hnames : target.names ≠ [] := by
    intro hnil
    obtain ⟨s, hs⟩ := List.exists_mem_of_ne_nil sources hne
    apply (hsources s hs).2.not_within
    rw [hnil]
    exact List.nil_prefix
  have hcleared := Batch.clear_eq_ok hsound htarget hnames hclear
  have hplace : bare.place target = fs.place target := by rw [place, place, hcleared.start_eq]
  have hearliest : ∀ names, bare.earliest? sources names = fs.earliest? sources names :=
    earliest?_congr hcleared.start_eq (fun s hs => (hsources s hs).2) hcleared.apart
  obtain ⟨files, rfl, hnodup, hheld, hcomplete⟩ :=
    Job.ofSources_eq_ok hcleared.sound hsources hjobs
  obtain ⟨houtputs, hfilled, hholds⟩ :=
    convertJobs_eq_ok htarget hcleared.sound (fun f hf => (hheld f hf).1) hnodup hconvert
  obtain ⟨file, name, hfile, hplain, hapart, hfileNames⟩ :=
    Batch.summaryFile?_eq_some htarget hnames
  have hway : filled.place target.directory <+: filled.place file := by
    rw [place, place, Path.names_directory hnames, hfileNames, ← List.append_assoc]
    exact List.prefix_append _ _
  obtain ⟨hsummarized, hcontent⟩ := Batch.writeSummary_eq_ok htarget hfile hplain hway hsummary
  refine ⟨bare, filled, files, file, hthere, hcleared, hnodup, fun names => ?_, houtputs, ?_,
    fun f hf => ?_, hfile, ⟨hapart, name, hfileNames⟩, ?_, hcontent⟩
  · rw [Option.isSome_iff_exists]
    constructor
    · rintro ⟨f, hf, rfl⟩
      obtain ⟨-, content, -, hcontribution⟩ := hheld f hf
      exact ⟨content, hearliest _ ▸ hcontribution⟩
    · rintro ⟨content, hcontribution⟩
      exact hcomplete names content (hearliest _ ▸ hcontribution)
  · rwa [hplace] at hfilled
  · obtain ⟨hf', content, hread, hcontribution⟩ := hheld f hf
    obtain ⟨l, content', out, hlocate, hconverted, hout⟩ := hholds f hf
    obtain rfl : content = content' := by
      have hread' := contentAt_eq_ok_iff.mpr ⟨l, hlocate⟩
      exact Except.ok.inj (hread.symm.trans hread')
    rw [hplace] at hout
    exact ⟨hf'.named.1, content, out, hearliest _ ▸ hcontribution, hconverted, hout⟩
  · have hstart : filled.place file = fs.place file := by
      rw [hfilled.toKeepsDirectories.place_eq, place, place, hcleared.start_eq]
    rwa [hstart] at hsummarized

end Converter

end CommentSwitch
