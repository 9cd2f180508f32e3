import CommentSwitch.Proofs.Converter.Batches

/-!
# Mirrors

A batch that succeeds leaves in its target what its sources contribute, converted, and
nothing else.  The sources themselves stay, with one exception: a source that is the file
beside the target into which the summary is written.

- `Converter.Mirrors`: a target that holds what sources contribute
- `Converter.process_mirrors`: a batch leaves such a target, with one report for each file
- `Converter.process_keepsSources`: a batch changes no source but one in the summary's place
- `Converter.not_keepsSources_besideTarget`: a source that the summary replaces
-/

namespace CommentSwitch

open FileAction FileSystem

namespace Converter

variable {c : Converter} {sources : List Path} {target file : Path}
  {fs bare filled after : FileSystem} {files : List SourceFile} {reports : List FileReport}

/-! ## §1 The target -/

/-- Beneath a target lies exactly what the earliest of some sources contribute, converted,
with the directories on the way there. -/
structure Mirrors (c : Converter) (sources : List Path) (target : Path)
    (fs after : FileSystem) : Prop where
  file_iff : ∀ names, names ≠ [] → ∀ out,
    after.at? (fs.place target ++ names) = some (.file out) ↔
      ∃ content, fs.earliest? sources names = some content ∧
        c.converted names.getLast? content = .ok out
  converted_all : ∀ names content, fs.earliest? sources names = some content →
    ∃ out, c.converted names.getLast? content = .ok out
  directory_iff : ∀ names, names ≠ [] →
    (after.at? (fs.place target ++ names) = some .directory ↔
      ∃ longer, (fs.earliest? sources longer).isSome = true ∧ names <+: longer ∧ names ≠ longer)

/-- The summary is written neither into the target nor around it. -/
theorem Carried.not_summary (h : Carried c sources target fs bare filled after files file reports)
    (names : List Text) :
    fs.place target ++ names ∉ [fs.place file] ∧ ¬ fs.place target ++ names <+: fs.place file := by
  have hnot : ¬ fs.place target <+: fs.place file := by
    simpa using not_place_prefix_of_apart fs h.beside.1 []
  have hprefix : ¬ fs.place target ++ names <+: fs.place file := fun hbeneath =>
    hnot ((List.prefix_append _ names).trans hbeneath)
  refine ⟨?_, hprefix⟩
  rw [List.mem_singleton]
  intro heq
  exact hprefix (heq ▸ List.prefix_refl _)

/-- A file in the target has been written by one of the jobs. -/
theorem Carried.file_iff (h : Carried c sources target fs bare filled after files file reports)
    {names : List Text} (hnames : names ≠ []) {out : ByteArray} :
    after.at? (fs.place target ++ names) = some (.file out) ↔
      ∃ content, fs.earliest? sources names = some content ∧
        c.converted names.getLast? content = .ok out := by
  rw [h.summarized.file_iff _ (h.not_summary names).1]
  constructor
  · intro hout
    by_cases hmem : names ∈ files.map (·.names)
    · obtain ⟨f, hf, rfl⟩ := List.mem_map.mp hmem
      obtain ⟨-, content, out', hcontent, hconverted, hout'⟩ := h.holds f hf
      obtain rfl : out' = out := by simpa [hout'] using hout
      exact ⟨content, hcontent, hconverted⟩
    · -- Nothing else has been there before.
      exfalso
      have hnot : fs.place target ++ names ∉ files.map fun f => fs.place target ++ f.names :=
        fun hplace => hmem (SourceFile.append_mem_map_iff.mp hplace)
      have hbare := (h.converted.file_iff _ hnot out).mp hout
      rw [h.cleared.empty names hnames] at hbare
      cases hbare
  · rintro ⟨content, hcontent, hconverted⟩
    obtain ⟨f, hf, rfl⟩ := (h.mem_iff names).mpr (by simp [hcontent])
    obtain ⟨-, content', out', hcontent', hconverted', hout'⟩ := h.holds f hf
    obtain rfl : content' = content := Option.some.inj (hcontent'.symm.trans hcontent)
    obtain rfl : out' = out := Except.ok.inj (hconverted'.symm.trans hconverted)
    exact hout'

theorem Carried.mirrors (h : Carried c sources target fs bare filled after files file reports) :
    Mirrors c sources target fs after := by
  have hsound : after.Sound := h.summarized.sound (h.converted.sound h.cleared.sound)
  refine ⟨fun names hnames out => h.file_iff hnames, fun names content hcontent => ?_,
    fun names hnames => ⟨fun hdir => ?_, ?_⟩⟩
  · obtain ⟨f, hf, rfl⟩ := (h.mem_iff names).mpr (by simp [hcontent])
    obtain ⟨-, content', out, hcontent', hconverted, -⟩ := h.holds f hf
    obtain rfl : content' = content := Option.some.inj (hcontent'.symm.trans hcontent)
    exact ⟨out, hconverted⟩
  · -- The jobs have created the directory: the summary needs none here, and none was left.
    have hfilled : filled.at? (fs.place target ++ names) = some .directory := by
      rcases h.summarized.on_way _ hdir with hfilled | ⟨place, hplace, hway⟩
      · exact hfilled
      · rw [List.mem_singleton.mp hplace] at hway
        exact absurd hway (h.not_summary names).2
    rcases h.converted.on_way _ hfilled with hbare | ⟨place, hplace, hway⟩
    · rw [h.cleared.empty names hnames] at hbare
      cases hbare
    · obtain ⟨f, hf, rfl⟩ := List.mem_map.mp hplace
      refine ⟨f.names, (h.mem_iff f.names).mp ⟨f, hf, rfl⟩,
        (List.prefix_append_right_inj _).mp hway, ?_⟩
      rintro rfl
      obtain ⟨-, -, out, -, -, hout⟩ := h.holds f hf
      rw [hfilled] at hout
      cases hout
  · rintro ⟨longer, hlonger, ⟨rest, rfl⟩, hne⟩
    obtain ⟨f, hf, heq⟩ := (h.mem_iff _).mpr hlonger
    obtain ⟨hf', content, out, hcontent, hconverted, -⟩ := h.holds f hf
    rw [heq] at hf' hcontent hconverted
    -- Every file lies in directories.
    have hout := (h.file_iff hf').mpr ⟨content, hcontent, hconverted⟩
    rw [← List.append_assoc] at hout
    exact hsound.at?_of_append (by simpa using hne.symm) hout

/-- A batch that succeeds mirrors its sources in the target.  There is one report for each
file there, and the summary says how many there are. -/
theorem process_mirrors (c : Converter) {sources : List Path} {target : Path} {fs : FileSystem}
    (hsound : fs.Sound) (htarget : target.Plain)
    (hsources : ∀ s ∈ sources, s.Plain ∧ s.Apart target) {reports : List FileReport}
    (h : ((c.process sources target).runOn fs).1 = .ok reports) :
    let after := ((c.process sources target).runOn fs).2
    Mirrors c sources target fs after ∧
      ∃ all : List (List Text), all.Nodup ∧
        (∀ names, names ∈ all ↔ (fs.earliest? sources names).isSome = true) ∧
        reports.map (·.output) = all.map target.along ∧
        ∃ file, Batch.summaryFile? target = some file ∧
          after.contentAt file = .ok (bytesOf (Batch.summary sources target all.length)) := by
  intro after
  have hrun : (c.process sources target).runOn fs = (.ok reports, after) := Prod.ext h rfl
  obtain ⟨bare, filled, files, file, hcarried⟩ :=
    carried_of_process hsound htarget hsources hrun
  refine ⟨hcarried.mirrors, files.map (·.names), hcarried.nodup, fun names => ?_, ?_,
    file, hcarried.summaryFile, ?_⟩
  · rw [← hcarried.mem_iff names, List.mem_map]
  · rw [hcarried.outputs, List.map_map]
    rfl
  · have hlength : reports.length = (files.map (·.names)).length := by
      simpa using congrArg List.length hcarried.outputs
    rw [← hlength]
    exact hcarried.summary

/-- Two directories that share a name, and a target with a file in it. -/
def twoSources : FileSystem :=
  ⟨.ofList [([['a']], .directory), ([['a'], ['x']], .file (bytesOf (Text.ofString "first"))),
    ([['b']], .directory), ([['b'], ['x']], .file (bytesOf (Text.ofString "second"))),
    ([['b'], ['y']], .file ⟨#[0x89, 0xff]⟩), ([['t']], .directory),
    ([['t'], ['z']], .file (bytesOf (Text.ofString "old")))], []⟩

/-- What a batch with these sources reports. -/
def twoReports : List FileReport :=
  [⟨.ofText (Text.ofString "a/x"), .ofText (Text.ofString "t/x"), .transformed 1 1⟩,
    ⟨.ofText (Text.ofString "b/y"), .ofText (Text.ofString "t/y"),
      .copied FileFault.notText.text⟩]

theorem process_mirrors_twoSources :
    let sources := [Path.single ['a'], Path.single ['b']]
    let target := Path.single ['t']
    let run := (standard.process sources target).runOn twoSources
    run.1 = .ok twoReports ∧
      run.2.at? [['t'], ['x']] = some (.file (bytesOf (Text.ofString "first\n"))) ∧
      run.2.at? [['t'], ['z']] = none ∧
      Mirrors standard sources target twoSources run.2 ∧
      ∃ all : List (List Text), all.Nodup ∧
        (∀ names, names ∈ all ↔ (twoSources.earliest? sources names).isSome = true) ∧
        twoReports.map (·.output) = all.map target.along ∧
        ∃ file, Batch.summaryFile? target = some file ∧
          run.2.contentAt file = .ok (bytesOf (Batch.summary sources target all.length)) := by
  intro sources target run
  have hreports : run.1 = .ok twoReports := by decide +kernel
  refine ⟨hreports, by decide +kernel, by decide +kernel, ?_⟩
  exact process_mirrors standard (by decide +kernel) (by decide +kernel) (by decide +kernel)
    hreports

/-! ## §2 The sources -/

/-- A source in whose place the summary is not written lies apart from everything that is
written. -/
theorem Carried.at?_source (h : Carried c sources target fs bare filled after files file reports)
    {source : Path} (hapart : source.Apart target) {names : List Text} {content : ByteArray}
    (hsummary : names = [] → source.names ≠ file.names)
    (hat : fs.at? (fs.place source ++ names) = some (.file content)) :
    after.at? (fs.place source ++ names) = some (.file content) := by
  have hnot := not_place_prefix_of_apart fs hapart names
  have hfile : fs.place source ++ names ∉ [fs.place file] := by
    rw [List.mem_singleton]
    intro heq
    have hnames : source.names ++ names = file.names := by
      simpa [place] using heq
    by_cases hnil : names = []
    · rw [hnil, List.append_nil] at hnames
      exact hsummary hnil hnames
    · -- A source around the summary would be around the target.
      obtain ⟨-, name, hfileNames⟩ := h.beside
      have hwithin : source.names <+: target.names.dropLast := by
        obtain ⟨init, last, rfl⟩ := (List.eq_nil_or_concat' names).resolve_left hnil
        rw [hfileNames, ← List.append_assoc] at hnames
        exact ⟨init, (List.append_inj' hnames rfl).1⟩
      exact hapart.not_around (hwithin.trans (List.dropLast_prefix _))
  have hplaces : fs.place source ++ names ∉ files.map fun f => fs.place target ++ f.names := by
    intro hmem
    obtain ⟨f, -, heq⟩ := List.mem_map.mp hmem
    exact hnot (heq ▸ List.prefix_append _ _)
  rw [h.summarized.file_iff _ hfile, h.converted.file_iff _ hplaces, h.cleared.apart _ hnot]
  exact hat

/-- A batch that succeeds leaves every file that is a source or lies beneath one, unless that
is the file into which the summary is written. -/
theorem process_keepsSources (c : Converter) {sources : List Path} {target : Path}
    {fs : FileSystem} (hsound : fs.Sound) (htarget : target.Plain)
    (hsources : ∀ s ∈ sources, s.Plain ∧ s.Apart target)
    (hsummary : ∀ file ∈ Batch.summaryFile? target, ∀ s ∈ sources, fs.isFile s = true →
      s.names ≠ file.names)
    {reports : List FileReport} (h : ((c.process sources target).runOn fs).1 = .ok reports) :
    ∀ s ∈ sources, ∀ names content, fs.at? (fs.place s ++ names) = some (.file content) →
      ((c.process sources target).runOn fs).2.at? (fs.place s ++ names)
        = some (.file content) := by
  have hrun : (c.process sources target).runOn fs =
      (.ok reports, ((c.process sources target).runOn fs).2) := Prod.ext h rfl
  obtain ⟨bare, filled, files, file, hcarried⟩ :=
    carried_of_process hsound htarget hsources hrun
  intro s hs names content hat
  obtain ⟨hplain, hapart⟩ := hsources s hs
  refine hcarried.at?_source hapart (fun hnil => ?_) hat
  refine hsummary file hcarried.summaryFile s hs ?_
  -- The source is there, and it is a file.
  have hthere := hcarried.there s hs
  rw [hnil, List.append_nil] at hat
  rw [isThere] at hthere
  rw [isFile]
  cases hlocate : fs.locate s with
  | error e => rw [hlocate] at hthere; cases hthere
  | ok x =>
    obtain ⟨l, e⟩ := x
    obtain rfl := eq_place_of_locate hplain hlocate
    obtain rfl : e = .file content := by
      have he := (locate_eq_ok_iff.mp hlocate).2.2
      exact Option.some.inj (he.symm.trans hat)
    rfl

theorem process_keepsSources_twoSources :
    let sources := [Path.single ['a'], Path.single ['b']]
    let run := (standard.process sources (.single ['t'])).runOn twoSources
    run.1 = .ok twoReports ∧
      ∀ s ∈ sources, ∀ names content,
        twoSources.at? (twoSources.place s ++ names) = some (.file content) →
          run.2.at? (twoSources.place s ++ names) = some (.file content) := by
  intro sources run
  have hreports : run.1 = .ok twoReports := by decide +kernel
  refine ⟨hreports, ?_⟩
  exact process_keepsSources standard (by decide +kernel) (by decide +kernel)
    (by decide +kernel) (by decide +kernel) hreports

/-- A text beside the target, in the place of the summary. -/
def besideTarget : FileSystem :=
  ⟨.ofList [([Text.ofString "t.txt"], .file (bytesOf (Text.ofString "text")))], []⟩

/-- A source is lost that lies beside the target and has the name of the summary. -/
theorem not_keepsSources_besideTarget :
    let source := Path.single (Text.ofString "t.txt")
    let target := Path.single ['t']
    let run := (standard.process [source] target).runOn besideTarget
    besideTarget.Sound ∧ target.Plain ∧ source.Plain ∧ source.Apart target ∧
      run.1.isOk = true ∧
      run.2.contentAt source =
        .ok (bytesOf (Text.ofString "Target: t\nSources: [t.txt]\nTotal Files: 1\n")) ∧
      ¬ ∀ names content,
        besideTarget.at? (besideTarget.place source ++ names) = some (.file content) →
          run.2.at? (besideTarget.place source ++ names) = some (.file content) := by
  intro source target run
  have hbefore : besideTarget.at? (besideTarget.place source ++ []) =
      some (.file (bytesOf (Text.ofString "text"))) := by decide +kernel
  have hafter : run.2.at? (besideTarget.place source ++ []) ≠
      some (.file (bytesOf (Text.ofString "text"))) := by decide +kernel
  refine ⟨by decide +kernel, by decide +kernel, by decide +kernel, by decide +kernel,
    by decide +kernel, by decide +kernel, fun hkeeps => ?_⟩
  exact hafter (hkeeps [] _ hbefore)

end Converter

end CommentSwitch
