import CommentSwitch.CommandLine.Run
import CommentSwitch.Proofs.Converter.InTurn
import CommentSwitch.Proofs.Files.Contents

/-!
# Routes

A text that goes by one name can be converted from the standard input, from a file or from a
directory of sources, to the standard output, to a file or into a target.  All routes deliver
the same bytes, tell the same of them, and fail with the same diagnostic.

- `Route`, `Route.command`, `Route.output?`: the routes, and where they end
- `Route.Starts`, `Route.CanWrite`: what a route begins with and what it needs
- `Route.delivered?`, `Route.outcomes`: what a route comes to
- `Route.all_agree`: all routes come to the same
-/

namespace CommentSwitch

open FileAction FileSystem

namespace CommandLine

/-- The diagnostic behind a fault, if directives are at fault. -/
def RunFault.diagnostic? : RunFault → Option Diagnostic
  | batch (.directives d) | file (.directives d) => some d
  | _ => none

/-! ## §1 Routes -/

/-- A route by which a text is converted. -/
inductive Route
  | inputToOutput
  | inputToFile (output : Path)
  | fileToOutput (input : Path)
  | fileToFile (input output : Path)
  /-- From a file beneath a directory, in the place that some names lead to, into a target. -/
  | rootToTarget (root target : Path) (way : List Text)

namespace Route

variable {c : Converter} {surroundings : Surroundings} {fs after : FileSystem} {name text : Text}

/-- The command for a route, with a text that goes by a name. -/
def command (name : Text) : Route → Command
  | inputToOutput => .convert dash none (some name)
  | inputToFile output => .convert dash (some output) (some name)
  | fileToOutput input => .convert input none (some name)
  | fileToFile input output => .convert input (some output) (some name)
  | rootToTarget root target _ => .process [root] target

/-- The file at the end of a route, unless that is the standard output. -/
def output? (name : Text) : Route → Option Path
  | inputToOutput | fileToOutput _ => none
  | inputToFile output | fileToFile _ output => some output
  | rootToTarget _ target way => some (target.along (way ++ [name]))

/-- A text in a file beneath a directory that can be processed: it is there when the target is
cleared, and the other files do not stop the run, at least not in front of this one. -/
structure Rooted (c : Converter) (fs bare : FileSystem) (root target : Path)
    (names : List Text) (text : Text) : Prop where
  isOpen : Batch.Open fs root target bare (bare.lead root)
  named : ∀ s ∈ names, IsName s
  text_eq : bare.textAt (root.along names) = .ok text
  converts : ∀ other ∈ bare.filesBeneath (bare.lead root), other ≠ names →
    ∀ content, bare.contentAt (root.along other) = .ok content →
      ∃ out, c.converted other.getLast? content = .ok out
  canWrite : bare.CanWrite
    (((bare.filesBeneath (bare.lead root)).takeWhile (· ≠ names)).map target.along)

/-- What is left when a target is cleared. -/
def bare (target : Path) (fs : FileSystem) : FileSystem := ((Batch.clear target).runOn fs).2

/-- A text is at the beginning of a route. -/
def Starts (c : Converter) (surroundings : Surroundings) (fs : FileSystem) (name text : Text) :
    Route → Prop
  | inputToOutput | inputToFile _ => textOf? surroundings.input = some text
  | fileToOutput input | fileToFile input _ =>
    input.isSame dash = false ∧ fs.textAt input = .ok text
  | rootToTarget root target way =>
    Rooted c fs (bare target fs) root target (way ++ [name]) text

/-- Everything can be written that is written on a route. -/
def CanWrite (fs : FileSystem) : Route → Prop
  | inputToOutput | fileToOutput _ => True
  | inputToFile output | fileToFile _ output => fs.CanWrite [output]
  | rootToTarget root target _ =>
    let bare := bare target fs
    bare.CanWrite ((bare.filesBeneath (bare.lead root)).map target.along ++
      (Batch.summaryFile? target).toList)

/-- What a route has delivered: what is shown, or what the file at its end holds. -/
def delivered? (name : Text) (shown : Shown) (after : FileSystem) (route : Route) :
    Option ByteArray :=
  match route.output? name, shown with
  | none, .text t => some (bytesOf t)
  | some output, .reports _ => (after.contentAt output).toOption
  | _, _ => none

/-- What is reported of the file at the end of a route. -/
def outcomes (name : Text) (shown : Shown) (route : Route) : List Outcome :=
  match route.output? name, shown with
  | some output, .reports reports => (reports.filter (·.output = output)).map (·.outcome)
  | _, _ => []

/-- A route has left nothing behind. -/
def LeavesNothing (name : Text) (fs after : FileSystem) : Route → Prop
  | rootToTarget _ target way =>
    -- The target has been cleared, and files in front of this one may have been converted.
    ∀ content, after.contentAt (target.along (way ++ [name])) ≠ .ok content
  | _ => after = fs

/-! ## §2 Single files -/

theorem runOn_textToConvert_dash (fs : FileSystem)
    (htext : textOf? surroundings.input = some text) :
    (textToConvert surroundings dash).runOn fs = (.ok text, fs) := by
  rw [textToConvert, if_pos (by rfl), htext]
  rfl

theorem runOn_textToConvert_file (surroundings : Surroundings) {input : Path}
    (hinput : input.isSame dash = false) (htext : fs.textAt input = .ok text) :
    (textToConvert surroundings input).runOn fs = (.ok text, fs) := by
  rw [textToConvert, if_neg (by simp [hinput]), runOn_bind, runOn_ask]
  simp only [htext, runOn_pure]

section Single

variable {input : Path} {output : Option Path} {converted : List Text}

/-- Where nothing can be copied the text is read, converted, and rendered or written. -/
theorem convertSingle_eq (c : Converter) (surroundings : Surroundings) (name : Option Text)
    (h : input.isSame dash = true ∨ output = none) :
    convertSingle c surroundings input output name = (do
      let lines := Text.lines (← textToConvert surroundings input)
      match c.convertLines (nameFor input name) lines with
      | .error d => throw (.file (.directives d))
      | .ok converted =>
        match output with
        | none => return .text (Text.unlines converted)
        | some output =>
          orElse (Converter.writeOutput output converted) .file
          return .reports [⟨input, output, .transformed lines.length converted.length⟩]) := by
  unfold convertSingle
  cases hsame : input.isSame dash with
  | true => rfl
  | false =>
    rcases h with hdash | rfl
    · rw [hsame] at hdash
      cases hdash
    · rfl

theorem runOn_convertSingle_error (output : Option Path)
    (h : input.isSame dash = true ∨ output = none)
    (htext : (textToConvert surroundings input).runOn fs = (.ok text, fs)) {d : Diagnostic}
    (hlines : c.convertLines (some name) (Text.lines text) = .error d) :
    (convertSingle c surroundings input output (some name)).runOn fs =
      (.error (.file (.directives d)), fs) := by
  have hname : nameFor input (some name) = some name := rfl
  rw [convertSingle_eq c surroundings _ h, runOn_bind, htext, hname]
  simp only [hlines, runOn_throw]

theorem runOn_convertSingle_render
    (htext : (textToConvert surroundings input).runOn fs = (.ok text, fs))
    (hlines : c.convertLines (some name) (Text.lines text) = .ok converted) :
    (convertSingle c surroundings input none (some name)).runOn fs =
      (.ok (.text (Text.unlines converted)), fs) := by
  have hname : nameFor input (some name) = some name := rfl
  rw [convertSingle_eq c surroundings _ (.inr rfl), runOn_bind, htext, hname]
  simp only [hlines, runOn_pure]

/-- What comes from the standard input is written into a file. -/
theorem runOn_convertSingle_write {output : Path} (hdash : input.isSame dash = true)
    (htext : (textToConvert surroundings input).runOn fs = (.ok text, fs))
    (hlines : c.convertLines (some name) (Text.lines text) = .ok converted)
    (hwrite : fs.CanWrite [output]) :
    ∃ after, (convertSingle c surroundings input (some output) (some name)).runOn fs =
        (.ok (.reports [⟨input, output,
          .transformed (Text.lines text).length converted.length⟩]), after) ∧
      after.contentAt output = .ok (bytesOf (Text.unlines converted)) := by
  have hname : nameFor input (some name) = some name := rfl
  obtain ⟨l, hwritable, -⟩ := hwrite
  refine ⟨_, ?_, contentAt_eq_ok_iff.mpr ⟨l, hwritable.locate_put _⟩⟩
  rw [convertSingle_eq c surroundings _ (.inl hdash), runOn_bind, htext, hname]
  simp only [hlines, runOn_bind, runOn_orElse, Converter.writeOutput,
    runOn_writeLines_of_writable hwritable, Except.mapError, runOn_pure]

/-- A file is converted into another one, or into itself. -/
theorem convertSingle_of_file (c : Converter) (surroundings : Surroundings) (name : Text)
    {output : Path} (hinput : input.isSame dash = false) :
    convertSingle c surroundings input (some output) (some name) = (do
      let report ← orElse (c.convertFileNamed (some name) input output) .file
      return .reports [report]) := by
  unfold convertSingle
  rw [hinput]
  rfl

theorem runOn_convertSingle_file (surroundings : Surroundings) {output : Path}
    (hinput : input.isSame dash = false)
    (htext : fs.textAt input = .ok text)
    (hlines : c.convertLines (some name) (Text.lines text) = .ok converted)
    (hwrite : fs.CanWrite [output]) :
    ∃ after, (convertSingle c surroundings input (some output) (some name)).runOn fs =
        (.ok (.reports [⟨input, output,
          .transformed (Text.lines text).length converted.length⟩]), after) ∧
      after.contentAt output = .ok (bytesOf (Text.unlines converted)) := by
  obtain ⟨l, hwritable, -⟩ := hwrite
  refine ⟨_, ?_, contentAt_eq_ok_iff.mpr ⟨l, hwritable.locate_put _⟩⟩
  rw [convertSingle_of_file c surroundings name hinput, runOn_bind, runOn_orElse,
    Converter.runOn_convertFileNamed_of_writable htext hlines hwritable]
  rfl

end Single

/-! ## §3 Files of a source -/

section Sources

variable {bare : FileSystem} {root target : Path} {names : List Text} {last : Text}

/-- The file is one of those beneath the root. -/
theorem Rooted.mem_filesBeneath (h : Rooted c fs bare root target names text) :
    names ∈ bare.filesBeneath (bare.lead root) := by
  obtain ⟨content, hcontent, -⟩ := textAt_eq_ok_iff.mp h.text_eq
  obtain ⟨l, hl⟩ := contentAt_eq_ok_iff.mp hcontent
  obtain rfl := eq_lead_of_locate hl
  rw [lead_along bare root h.named] at hl
  exact (FileSystem.mem_filesBeneath h.isOpen.rootless).mpr
    ⟨content, (locate_eq_ok_iff.mp hl).2.2⟩

theorem Rooted.fileName?_eq (h : Rooted c fs bare root target names text) {other : List Text}
    (hother : other ∈ bare.filesBeneath (bare.lead root)) :
    (root.along other).fileName? = other.getLast? := by
  have hdir := (locate_eq_ok_iff.mp h.isOpen.located).2.2
  obtain ⟨hne, hnamed⟩ :=
    isName_of_mem_filesBeneath h.isOpen.sound h.isOpen.rootless hdir hother
  exact Path.fileName?_along root hne hnamed

/-- A batch delivers the file, and there is one report on it. -/
theorem Rooted.process_ok (h : Rooted c fs bare root target names text)
    (hlast : names.getLast? = some last)
    (hwrite : bare.CanWrite ((bare.filesBeneath (bare.lead root)).map target.along ++
      (Batch.summaryFile? target).toList)) {converted : List Text}
    (hlines : c.convertLines (some last) (Text.lines text) = .ok converted) :
    ∃ reports after, (c.process [root] target).runOn fs = (.ok reports, after) ∧
      after.contentAt (target.along names) = .ok (bytesOf (Text.unlines converted)) ∧
      (reports.filter (·.output = target.along names)).map (·.outcome) =
        [.transformed (Text.lines text).length converted.length] := by
  have hmem := h.mem_filesBeneath
  obtain ⟨content, hcontent, htextOf⟩ := textAt_eq_ok_iff.mp h.text_eq
  have hproduct : c.product (root.along names).fileName? content =
      .ok (bytesOf (Text.unlines converted),
        .transformed (Text.lines text).length converted.length) := by
    rw [h.fileName?_eq hmem, hlast, Converter.product_of_text htextOf, hlines]
    rfl
  have hconverts : ∀ j ∈ Job.ofDirectory bare (bare.lead root) root target, ∀ content,
      bare.contentAt j.input = .ok content →
        ∃ out, c.converted j.input.fileName? content = .ok out := by
    refine List.forall_mem_map.mpr fun other hother old hold => ?_
    by_cases hsame : other = names
    · subst hsame
      obtain rfl : content = old := Except.ok.inj (hcontent.symm.trans hold)
      rw [← Converter.map_fst_product, hproduct]
      exact ⟨_, rfl⟩
    · rw [h.fileName?_eq hother]
      exact h.converts other hother hsame old hold
  obtain ⟨reports, after, hrun, hdone⟩ := Converter.process_of_canWrite h.isOpen
    (List.ne_nil_of_mem hmem) hconverts (by simpa [Job.ofDirectory, Function.comp_def] using hwrite)
  have hjobs := Job.inTurn_of_emptied target h.isOpen.sound h.isOpen.rootless
    h.isOpen.located h.isOpen.emptied
  obtain ⟨report, ⟨content', out, outcome, hcontent', hproduct', hout, rfl⟩, hfilter⟩ :=
    Job.filter_of_done hdone hjobs.nodup_outputs (List.mem_map_of_mem hmem)
  obtain rfl : content = content' := Except.ok.inj (hcontent.symm.trans hcontent')
  obtain ⟨rfl, rfl⟩ : _ = out ∧ _ = outcome := by simpa [hproduct] using hproduct'
  exact ⟨reports, after, hrun, hout, by rw [hfilter]; rfl⟩

/-- Faulty directives in the file stop the batch, and the file is not in the target. -/
theorem Rooted.process_error (h : Rooted c fs bare root target names text)
    (hlast : names.getLast? = some last) {d : Diagnostic}
    (hlines : c.convertLines (some last) (Text.lines text) = .error d) :
    ∃ mid, (c.process [root] target).runOn fs = (.error (.directives d), mid) ∧
      ∀ content, mid.contentAt (target.along names) ≠ .ok content := by
  have hmem := h.mem_filesBeneath
  obtain ⟨before, rest, hfiles, hnotin⟩ := List.eq_append_cons_of_mem hmem
  have htake : (bare.filesBeneath (bare.lead root)).takeWhile (· ≠ names) = before := by
    have hbefore : ∀ other ∈ before, decide (other ≠ names) = true := by
      intro other hother
      exact decide_eq_true fun hsame => hnotin (hsame ▸ hother)
    rw [hfiles, List.takeWhile_append_of_pos hbefore, List.takeWhile_cons_of_neg (by simp),
      List.append_nil]
  refine Converter.process_eq_error h.isOpen hfiles (fun other hother content hcontent => ?_)
    (htake ▸ h.canWrite) h.text_eq (by rwa [h.fileName?_eq hmem, hlast])
  have hother' : other ∈ bare.filesBeneath (bare.lead root) := by simp [hfiles, hother]
  rw [h.fileName?_eq hother']
  exact h.converts other hother' (fun hsame => hnotin (hsame ▸ hother)) content hcontent

end Sources

/-! ## §4 All routes -/

/-- A route has delivered converted lines: as these bytes, and with these numbers of lines in
the one report on the file at its end. -/
structure Delivers (name text : Text) (converted : List Text) (shown : Shown) (after : FileSystem)
    (route : Route) : Prop where
  bytes_eq : route.delivered? name shown after = some (bytesOf (Text.unlines converted))
  outcomes_eq : (route.output? name).isSome = true →
    route.outcomes name shown = [.transformed (Text.lines text).length converted.length]

section Delivers

variable {route : Route} {converted : List Text}

theorem delivers_text (h : route.output? name = none) :
    route.Delivers name text converted (.text (Text.unlines converted)) after where
  bytes_eq := by simp only [delivered?, h]
  outcomes_eq hsome := by simp [h] at hsome

theorem delivers_reports {output : Path} {reports : List FileReport}
    (h : route.output? name = some output)
    (hcontent : after.contentAt output = .ok (bytesOf (Text.unlines converted)))
    (hreports : (reports.filter (·.output = output)).map (·.outcome) =
      [.transformed (Text.lines text).length converted.length]) :
    route.Delivers name text converted (.reports reports) after where
  bytes_eq := by simp only [delivered?, h, hcontent, Except.toOption]
  outcomes_eq _ := by simp only [outcomes, h, hreports]

end Delivers

/-- A text that can be converted is delivered. -/
theorem exists_delivers (c : Converter) (surroundings : Surroundings) (fs : FileSystem)
    (route : Route) (hstarts : route.Starts c surroundings fs name text)
    (hwrite : route.CanWrite fs) {converted : List Text}
    (hlines : c.convertLines (some name) (Text.lines text) = .ok converted) :
    ∃ shown after, ((route.command name).run c surroundings).runOn fs = (.ok shown, after) ∧
      route.Delivers name text converted shown after := by
  cases route with
  | inputToOutput =>
    have htext := runOn_textToConvert_dash fs hstarts
    exact ⟨_, fs, runOn_convertSingle_render htext hlines, delivers_text rfl⟩
  | fileToOutput input =>
    have htext := runOn_textToConvert_file surroundings hstarts.1 hstarts.2
    exact ⟨_, fs, runOn_convertSingle_render htext hlines, delivers_text rfl⟩
  | inputToFile output =>
    have htext := runOn_textToConvert_dash fs hstarts
    obtain ⟨after, hrun, hcontent⟩ := runOn_convertSingle_write rfl htext hlines hwrite
    exact ⟨_, after, hrun, delivers_reports rfl hcontent (by simp)⟩
  | fileToFile input output =>
    obtain ⟨after, hrun, hcontent⟩ := runOn_convertSingle_file surroundings
      hstarts.1 hstarts.2 hlines hwrite
    exact ⟨_, after, hrun, delivers_reports rfl hcontent (by simp)⟩
  | rootToTarget root target way =>
    obtain ⟨reports, after, hrun, hcontent, hreports⟩ :=
      Rooted.process_ok hstarts (by simp) hwrite hlines
    refine ⟨.reports reports, after, ?_, delivers_reports rfl hcontent hreports⟩
    rw [command, Command.run, runOn_bind, runOn_orElse, hrun]
    rfl

/-- A text that can not be converted stops every route. -/
theorem exists_fault (c : Converter) (surroundings : Surroundings) (fs : FileSystem)
    (route : Route) (hstarts : route.Starts c surroundings fs name text) {d : Diagnostic}
    (hlines : c.convertLines (some name) (Text.lines text) = .error d) :
    ∃ fault after, ((route.command name).run c surroundings).runOn fs = (.error fault, after) ∧
      fault.diagnostic? = some d ∧ route.LeavesNothing name fs after := by
  have hdash : dash.isSame dash = true := rfl
  cases route with
  | inputToOutput =>
    have htext := runOn_textToConvert_dash fs hstarts
    exact ⟨.file (.directives d), fs,
      runOn_convertSingle_error none (.inl hdash) htext hlines, rfl, rfl⟩
  | fileToOutput input =>
    have htext := runOn_textToConvert_file surroundings hstarts.1 hstarts.2
    exact ⟨.file (.directives d), fs,
      runOn_convertSingle_error none (.inr rfl) htext hlines, rfl, rfl⟩
  | inputToFile output =>
    have htext := runOn_textToConvert_dash fs hstarts
    exact ⟨.file (.directives d), fs,
      runOn_convertSingle_error (some output) (.inl hdash) htext hlines, rfl, rfl⟩
  | fileToFile input output =>
    have hfile : (c.convertFileNamed (some name) input output).runOn fs =
        (.error (.directives d), fs) := Converter.runOn_convertFileNamed_of_error hstarts.2 hlines
    refine ⟨.file (.directives d), fs, ?_, rfl, rfl⟩
    rw [command, Command.run, convertSingle_of_file c surroundings name hstarts.1, runOn_bind,
      runOn_orElse, hfile]
    rfl
  | rootToTarget root target way =>
    obtain ⟨mid, hrun, hnone⟩ := Rooted.process_error hstarts (by simp) hlines
    refine ⟨.batch (.directives d), mid, ?_, rfl, hnone⟩
    rw [command, Command.run, runOn_bind, runOn_orElse, hrun]
    rfl

/-- **All routes to one conversion agree**: whatever the converter, a text that goes by some
name is delivered as the same bytes, with the same numbers of lines in the report if there is
one, or all routes fail with the same diagnostic and leave nothing behind. -/
theorem all_agree (c : Converter) (surroundings : Surroundings) (fs : FileSystem)
    {name text : Text} (route : Route) (hstarts : route.Starts c surroundings fs name text) :
    let run := ((route.command name).run c surroundings).runOn fs
    (∀ converted, c.convertLines (some name) (Text.lines text) = .ok converted →
      route.CanWrite fs → ∃ shown, run.1 = .ok shown ∧
        route.delivered? name shown run.2 = some (bytesOf (Text.unlines converted)) ∧
        ((route.output? name).isSome = true → route.outcomes name shown =
          [.transformed (Text.lines text).length converted.length])) ∧
    (∀ d, c.convertLines (some name) (Text.lines text) = .error d →
      ∃ fault, run.1 = .error fault ∧ fault.diagnostic? = some d ∧
        route.LeavesNothing name fs run.2) := by
  intro run
  refine ⟨fun converted hlines hwrite => ?_, fun d hlines => ?_⟩
  · obtain ⟨shown, after, hrun, hdelivers⟩ :=
      exists_delivers c surroundings fs route hstarts hwrite hlines
    refine ⟨shown, congrArg Prod.fst hrun, ?_, hdelivers.outcomes_eq⟩
    rw [show run.2 = after from congrArg Prod.snd hrun]
    exact hdelivers.bytes_eq
  · obtain ⟨fault, after, hrun, hdiagnostic, hnothing⟩ :=
      exists_fault c surroundings fs route hstarts hlines
    refine ⟨fault, congrArg Prod.fst hrun, hdiagnostic, ?_⟩
    rw [show run.2 = after from congrArg Prod.snd hrun]
    exact hnothing

/-- A directory with a text and another file, and a target that holds an older text. -/
def textAndNoise : FileSystem :=
  ⟨.ofList [([Text.ofString "out"], .directory),
      ([Text.ofString "out", Text.ofString "old.txt"], .file (bytesOf (Text.ofString "old\n"))),
      ([Text.ofString "src"], .directory),
      ([Text.ofString "src", Text.ofString "a.txt"],
        .file (bytesOf (Text.ofString "one\r\ntwo"))),
      ([Text.ofString "src", Text.ofString "z.bin"], .file ⟨#[0xff]⟩)], []⟩

theorem rooted_textAndNoise :
    let src := Path.ofText (Text.ofString "src")
    let out := Path.ofText (Text.ofString "out")
    Rooted Converter.standard textAndNoise (bare out textAndNoise) src out [Text.ofString "a.txt"]
      (Text.ofString "one\r\ntwo") where
  isOpen :=
    { accepted := by decide +kernel
      cleared := Prod.ext (by decide +kernel) rfl
      sound := by decide +kernel
      rootless := by decide +kernel
      located := by decide +kernel
      emptied := by decide +kernel }
  named := by decide +kernel
  text_eq := by decide +kernel
  converts := by
    intro other hother hne content hcontent
    have hfiles : other ∈ [[Text.ofString "a.txt"], [Text.ofString "z.bin"]] := hother
    rcases List.mem_pair.mp hfiles with rfl | rfl
    · exact absurd rfl hne
    · obtain rfl : ⟨#[0xff]⟩ = content := Except.ok.inj hcontent
      exact ⟨_, rfl⟩
  canWrite := trivial

theorem canWrite_textAndNoise :
    let src := Path.ofText (Text.ofString "src")
    let out := Path.ofText (Text.ofString "out")
    (Route.rootToTarget src out []).CanWrite textAndNoise := by
  have hnone : ¬ (none : Option Entry) = some .directory := nofun
  -- The old file is gone, so there is nothing in the place of any of the three.
  exact ⟨[Text.ofString "out", Text.ofString "a.txt"], ⟨rfl, hnone⟩, fun _ =>
    ⟨[Text.ofString "out", Text.ofString "z.bin"], ⟨rfl, hnone⟩, fun _ =>
      ⟨[Text.ofString "out.txt"], ⟨rfl, hnone⟩, fun _ => trivial⟩⟩⟩

theorem all_agree_textAndNoise :
    let name := Text.ofString "a.txt"
    let text := Text.ofString "one\r\ntwo"
    let faulty := Text.ofString "//#if a\nx"
    let unfinished : Diagnostic := ⟨.endifMissing, ⟨some 2, some name⟩⟩
    let src := Path.ofText (Text.ofString "src")
    let route := Route.rootToTarget src (.ofText (Text.ofString "out")) []
    let other := Route.inputToFile (.ofText (Text.ofString "out/b.txt"))
    let surroundings : Surroundings := ⟨.ofText (Text.ofString "home"), bytesOf faulty⟩
    let run := ((route.command name).run Converter.standard surroundings).runOn textAndNoise
    let stopped := ((other.command name).run Converter.standard surroundings).runOn textAndNoise
    route.Starts Converter.standard surroundings textAndNoise name text ∧
      Converter.standard.convertLines (some name) (Text.lines text) =
        .ok [Text.ofString "one", Text.ofString "two"] ∧
      route.CanWrite textAndNoise ∧
      (∃ shown, run.1 = .ok shown ∧
        route.delivered? name shown run.2 = some (bytesOf (Text.ofString "one\ntwo\n")) ∧
        route.outcomes name shown = [.transformed 2 2]) ∧
      other.Starts Converter.standard surroundings textAndNoise name faulty ∧
      Converter.standard.convertLines (some name) (Text.lines faulty) = .error unfinished ∧
      ∃ fault, stopped.1 = .error fault ∧ fault.diagnostic? = some unfinished ∧
        stopped.2 = textAndNoise := by
  intro name text faulty unfinished src route other surroundings run stopped
  have hstarts : route.Starts Converter.standard surroundings textAndNoise name text :=
    rooted_textAndNoise
  have hlines : Converter.standard.convertLines (some name) (Text.lines text) =
      .ok [Text.ofString "one", Text.ofString "two"] := by decide +kernel
  have hwrite : route.CanWrite textAndNoise := canWrite_textAndNoise
  obtain ⟨shown, hshown, hbytes, houtcomes⟩ :=
    (all_agree Converter.standard surroundings textAndNoise route hstarts).1 _ hlines hwrite
  have hother : other.Starts Converter.standard surroundings textAndNoise name faulty :=
    textOf?_bytesOf faulty
  have herror : Converter.standard.convertLines (some name) (Text.lines faulty) =
      .error unfinished := by decide +kernel
  have hstopped := (all_agree Converter.standard surroundings textAndNoise other hother).2 _ herror
  exact ⟨hstarts, hlines, hwrite, ⟨shown, hshown, hbytes, houtcomes rfl⟩, hother, herror, hstopped⟩

end Route

end CommandLine

end CommentSwitch
