import CommentSwitch.Proofs.Converter.Jobs
import CommentSwitch.Proofs.Files.Paving

/-!
# Verdicts

What the conversion of one file comes to on clean paths, and what it leaves.  Little of the
file system matters for that: the content of the input, and whether there is room for the
output.

- `FileSystem.Room`, `FileSystem.room`: what an attempt to put a file somewhere meets
- `FileSystem.Effect`: what is left of a conversion
- `Converter.verdict`: what a job comes to, told from content and room alone
- `Converter.runOn_convertFile`: a job does exactly what its verdict says
-/

namespace CommentSwitch

open FileAction

namespace FileSystem

variable {fs after : FileSystem} {p input output : Path} {l : Location}

/-! ## §1 Room for a file -/

/-- What an attempt to put a file somewhere meets. -/
inductive Room
  | free
  /-- A file is on the way. -/
  | blocked
  /-- A directory is there, or a slash asks for one. -/
  | taken (fault : FileFault)
  deriving DecidableEq

/-- Whether a file can be put where a path says. -/
def room (fs : FileSystem) (p : Path) : Room :=
  if fs.Blocked (fs.place p).dropLast then .blocked
  else if p.isSlashed then .taken .notADirectory
  else if fs.at? (fs.place p) = some .directory then .taken .isADirectory
  else .free

theorem room_eq_blocked_iff : fs.room p = .blocked ↔ fs.Blocked (fs.place p).dropLast := by
  unfold room
  split
  · next hblocked => simp [hblocked]
  · next hnot => split <;> [skip; split] <;> simp [hnot]

/-- A directory of the way may be there, or come to be there. -/
theorem room_paved (hsound : fs.Sound) (hp : p.Clean) (hnames : p.names ≠ [])
    (hnot : ¬ fs.Blocked (fs.place p).dropLast) :
    (fs.paved (fs.place p).dropLast).room p = fs.room p := by
  have hnot' := (sound_paved_dropLast hsound hp).not_blocked (at?_paved_self fs _)
  have hself : ¬ fs.place p <+: (fs.place p).dropLast := by
    rw [prefix_dropLast_iff (place_ne_nil fs hnames)]
    simp
  unfold room
  rw [place_paved, if_neg hnot, if_neg hnot', at?_paved, if_neg hself]

/-- In a directory that is there a file can be written if there is room for it. -/
theorem writable_iff_room (hsound : fs.Sound) (hp : p.Clean) (hnames : p.names ≠ [])
    (hheld : fs.at? (fs.place p).dropLast = some .directory) :
    fs.Writable p l ↔ l = fs.place p ∧ fs.room p = .free := by
  have hslot := slot_of_clean hsound hp hnames
  rw [if_pos hheld] at hslot
  have hroom : fs.room p = .free ↔
      p.isSlashed = false ∧ fs.at? (fs.place p) ≠ some .directory := by
    unfold room
    rw [if_neg (hsound.not_blocked hheld)]
    cases p.isSlashed
    · by_cases hdir : fs.at? (fs.place p) = some .directory <;> simp [hdir]
    · simp
  rw [hroom]
  constructor
  · intro h
    have heq := h.slot_eq
    rw [hslot] at heq
    obtain ⟨rfl, hslashed⟩ : fs.place p = l ∧ p.isSlashed = false := by simpa using heq
    exact ⟨rfl, hslashed, h.not_directory⟩
  · rintro ⟨rfl, hslashed, hdir⟩
    exact ⟨by rw [hslot, hslashed], hdir⟩

/-- Clean paths stand for one file if they have the same names. -/
theorem isSameFile_iff (hinput : input.Clean) (houtput : output.Clean) :
    fs.isSameFile input output = true ↔ input.names = output.names := by
  constructor
  · intro h
    have hplace := place_eq_of_isSameFile hinput.toPlain houtput.toPlain h
    exact List.append_cancel_left hplace
  · intro h
    rw [isSameFile, (hinput.isSame_iff houtput).mpr h, Bool.true_or]

/-! ## §2 What is left -/

/-- What is left of a conversion. -/
inductive Effect
  | nothing
  /-- The directories on the way of the output. -/
  | way
  /-- The output, with the directories on its way. -/
  | file (content : ByteArray)

/-- The file system that an effect at a place leaves. -/
def Effect.on (l : Location) (fs : FileSystem) : Effect → FileSystem
  | .nothing => fs
  | .way => fs.paved l.dropLast
  | .file content => fs.withFile l content

end FileSystem

namespace FileAction

open FileSystem

variable {fs : FileSystem} {p input output : Path}

/-! ## §3 Writing and copying -/

/-- In a directory that is there a file is replaced if there is room for it. -/
theorem runOn_replace_of_clean (hsound : fs.Sound) (hp : p.Clean) (hnames : p.names ≠ [])
    (hheld : fs.at? (fs.place p).dropLast = some .directory) (content : ByteArray) :
    (replace p content).runOn fs =
      match fs.room p with
      | .taken fault => (.error fault, fs)
      | _ => (.ok (), fs.put (fs.place p) (.file content)) := by
  rw [replace, runOn_bind, runOn_askOr, slot_of_clean hsound hp hnames, if_pos hheld]
  unfold room
  rw [if_neg (hsound.not_blocked hheld)]
  cases p.isSlashed with
  | true => rfl
  | false =>
    simp only [runOn_bind, runOn_ask, Bool.false_eq_true, if_false]
    split <;> rfl

/-- Lines are written if there is room for them; otherwise the way to the output may have
been created. -/
theorem runOn_writeLines_of_clean (hsound : fs.Sound) (hp : p.Clean) (hnames : p.names ≠ [])
    (lines : List Text) :
    match fs.room p with
    | .free => (writeLines p lines).runOn fs =
        (.ok (), fs.withFile (fs.place p) (bytesOf (Text.unlines lines)))
    | .blocked => ∃ e, (writeLines p lines).runOn fs = (.error e, fs)
    | .taken fault => (writeLines p lines).runOn fs =
        (.error fault, fs.paved (fs.place p).dropLast) := by
  rw [writeLines, runOn_bind]
  rcases runOn_holder_of_clean hsound hp hnames with ⟨hnot, hrun⟩ | ⟨hway, -, e, hrun⟩
  · have hreplace := runOn_replace_of_clean (sound_paved_dropLast hsound hp) hp hnames
      (by rw [place_paved, at?_paved_self]) (bytesOf (Text.unlines lines))
    rw [room_paved hsound hp hnames hnot, place_paved] at hreplace
    simp only [hrun]
    cases hroom : fs.room p with
    | free =>
      rw [hroom] at hreplace
      exact hreplace
    | blocked => exact absurd (room_eq_blocked_iff.mp hroom) hnot
    | taken fault =>
      rw [hroom] at hreplace
      exact hreplace
  · have hroom := room_eq_blocked_iff.mpr hway
    simp only [hroom, hrun]
    exact ⟨e, rfl⟩

/-- In a directory that is there a file is copied if there is room for it. -/
theorem runOn_copy_of_clean (hsound : fs.Sound) (houtput : output.Clean)
    (hnames : output.names ≠ []) (hheld : fs.at? (fs.place output).dropLast = some .directory)
    {m : Location} {content : ByteArray} (hinput : fs.locate input = .ok (m, .file content))
    (hne : m ≠ fs.place output) :
    (fs.room output = .free ∧
      (copy input output).runOn fs = (.ok (), fs.put (fs.place output) (.file content))) ∨
    (fs.room output ≠ .free ∧ ∃ e, (copy input output).runOn fs = (.error e, fs)) := by
  have hwritable (l : Location) : fs.Writable output l ↔ _ :=
    writable_iff_room hsound houtput hnames hheld
  rcases runOn_copy_cases input output fs with
    ⟨m', content', l, hread, hl, hcopy⟩ | ⟨hfails, e, hcopy⟩
  · left
    obtain ⟨rfl, hroom⟩ := (hwritable l).mp hl
    obtain ⟨rfl, rfl⟩ : m = m' ∧ content = content' := by simpa [hinput] using hread
    rw [if_neg hne] at hcopy
    exact ⟨hroom, hcopy⟩
  · right
    refine ⟨fun hroom => ?_, e, hcopy⟩
    rcases hfails with ⟨e', hread⟩ | hnotWritable
    · rw [contentAt_eq_ok_iff.mpr ⟨m, hinput⟩] at hread
      cases hread
    · exact hnotWritable _ ((hwritable _).mpr ⟨rfl, hroom⟩)

theorem runOn_createHolder_of_clean (hsound : fs.Sound) (hp : p.Clean) (hnames : p.names ≠ []) :
    (¬ fs.Blocked (fs.place p).dropLast ∧
      (createHolder p).runOn fs = (.ok (), fs.paved (fs.place p).dropLast)) ∨
    (fs.Blocked (fs.place p).dropLast ∧
      (createHolder p).runOn fs = (.error (.directoryNotCreated p.directory), fs)) := by
  have hcases := runOn_holder_of_clean hsound hp hnames
  rw [createHolder]
  cases hholder : p.holder? with
  | none =>
    simp only [hholder, Option.forM, reduceCtorEq, false_and, and_false, or_false] at hcases
    exact .inl ⟨hcases.1, congrArg (fun r => (Except.ok (), r.2)) hcases.2⟩
  | some directory =>
    simp only [hholder, Option.forM, Option.some.injEq] at hcases
    simp only [Option.forM, runOn_orElse]
    rcases hcases with ⟨hnot, hrun⟩ | ⟨hway, hdirectory, e, hrun⟩
    · left
      rw [hrun]
      exact ⟨hnot, rfl⟩
    · right
      rw [hrun, hdirectory]
      exact ⟨hway, rfl⟩

end FileAction

namespace Converter

open FileSystem

variable {c : Converter} {fs : FileSystem} {input output : Path} {content : ByteArray}

/-! ## §4 Verdicts -/

/-- What a copy comes to that is made because of a fault. -/
def copyVerdict (input output : Path) (fault : FileFault) (content : ByteArray) (room : Room) :
    Except Failure FileReport × Effect :=
  if input.names = output.names then (.ok ⟨input, output, .copied fault.text⟩, .nothing)
  else
    match room with
    | .free => (.ok ⟨input, output, .copied fault.text⟩, .file content)
    | .blocked => (.error (.directoryNotCreated output.directory), .nothing)
    | .taken _ => (.error (.fileNotCopied input output), .way)

/-- What the conversion of a file comes to, told from the content of the input and the room
for the output. -/
def verdict (c : Converter) (input output : Path) (content : ByteArray) (room : Room) :
    Except Failure FileReport × Effect :=
  match textOf? content with
  | none => copyVerdict input output .notText content room
  | some text =>
    match c.convertLines input.fileName? (Text.lines text) with
    | .error d => (.error (.directives d), .nothing)
    | .ok converted =>
      match room with
      | .free =>
        (.ok ⟨input, output, .transformed (Text.lines text).length converted.length⟩,
          .file (bytesOf (Text.unlines converted)))
      | .blocked => (.error (.directoryNotCreated output.directory), .nothing)
      | .taken fault => copyVerdict input output fault content room

/-- A file that is there lies in a directory. -/
theorem at?_dropLast_of_locate (hsound : fs.Sound) {e : Entry}
    (hfile : fs.locate input = .ok (fs.place input, e)) :
    fs.at? (fs.place input).dropLast = some .directory := by
  by_contra hheld
  have hat := (locate_eq_ok_iff.mp hfile).2.2
  rw [hsound.at?_eq_none hheld] at hat
  cases hat

/-- A copy does what its verdict says. -/
theorem runOn_copyUnchanged (hsound : fs.Sound) (hinput : input.Clean) (houtput : output.Clean)
    (hnames : output.names ≠ [])
    (hfile : fs.locate input = .ok (fs.place input, .file content)) (fault : FileFault) :
    (copyUnchanged input output fault).runOn fs =
      ((copyVerdict input output fault content (fs.room output)).1,
        (copyVerdict input output fault content (fs.room output)).2.on (fs.place output) fs) := by
  rw [copyUnchanged, runOn_bind, runOn_ask]
  unfold copyVerdict
  by_cases hsame : input.names = output.names
  · have hsameFile : fs.isSameFile input output = true :=
      (isSameFile_iff hinput houtput).mpr hsame
    simp [hsameFile, hsame, Effect.on]
  · have hsameFile : fs.isSameFile input output = false := by
      rw [← Bool.not_eq_true, isSameFile_iff hinput houtput]
      exact hsame
    simp only [hsameFile, Bool.not_false, if_true, runOn_bind, if_neg hsame, runOn_orElse]
    rcases runOn_createHolder_of_clean hsound houtput hnames with ⟨hnot, hrun⟩ | ⟨hway, hrun⟩
    · have hne : fs.place input ≠ fs.place output := fun h =>
        hsame (List.append_cancel_left h)
      have hcopy := runOn_copy_of_clean (sound_paved_dropLast hsound houtput) houtput hnames
        (by rw [place_paved, at?_paved_self]) (locate_paved hnot hfile)
        (by rw [place_paved]; exact hne)
      rw [place_paved, room_paved hsound houtput hnames hnot] at hcopy
      simp only [hrun]
      rcases hcopy with ⟨hroom, hcopy⟩ | ⟨hroom, e, hcopy⟩
      · simp [hcopy, hroom, Effect.on, withFile, Except.mapError]
      · cases hcase : fs.room output with
        | free => exact absurd hcase hroom
        | blocked => exact absurd (room_eq_blocked_iff.mp hcase) hnot
        | taken fault' => simp [hcopy, Effect.on, Except.mapError]
    · simp [hrun, room_eq_blocked_iff.mpr hway, Effect.on]

/-- **A job does what its verdict says**, and leaves what that says. -/
theorem runOn_convertFile (c : Converter) (hsound : fs.Sound) (hinput : input.Clean)
    (houtput : output.Clean) (hnames : output.names ≠ [])
    (hfile : fs.locate input = .ok (fs.place input, .file content)) :
    (c.convertFile input output).runOn fs =
      ((c.verdict input output content (fs.room output)).1,
        (c.verdict input output content (fs.room output)).2.on (fs.place output) fs) := by
  have hcontent : fs.contentAt input = .ok content := contentAt_eq_ok_iff.mpr ⟨_, hfile⟩
  have htext : fs.textAt input = (textOf? content).elim (.error .notText) .ok := by
    simp only [textAt, hcontent, bind, Except.bind]
    cases textOf? content <;> rfl
  rw [convertFile, convertFileNamed, runOn_bind, runOn_ask, htext]
  unfold verdict
  cases textOf? content with
  | none => exact runOn_copyUnchanged hsound hinput houtput hnames hfile .notText
  | some text =>
    simp only [Option.elim]
    cases hlines : c.convertLines input.fileName? (Text.lines text) with
    | error d => rfl
    | ok converted =>
      have hwrite := runOn_writeLines_of_clean hsound houtput hnames converted
      simp only [runOn_bind, runOn_attempt]
      cases hroom : fs.room output with
      | free =>
        rw [hroom] at hwrite
        simp only [hwrite]
        rfl
      | blocked =>
        -- A file that is on the way to the output is not the input.
        rw [hroom] at hwrite
        obtain ⟨e, hwrite⟩ := hwrite
        have hcopy := runOn_copyUnchanged hsound hinput houtput hnames hfile e
        have hsame : input.names ≠ output.names := by
          intro hsame
          have hheld := at?_dropLast_of_locate hsound hfile
          have hplace : fs.place input = fs.place output := by rw [place, place, hsame]
          rw [hplace] at hheld
          exact hsound.not_blocked hheld (room_eq_blocked_iff.mp hroom)
        simp only [hwrite]
        rw [hcopy, hroom, copyVerdict, if_neg hsame]
      | taken fault =>
        rw [hroom] at hwrite
        have hnot : ¬ fs.Blocked (fs.place output).dropLast := by
          rw [← room_eq_blocked_iff, hroom]
          simp
        have hpaved := sound_paved_dropLast hsound houtput
        have hcopy := runOn_copyUnchanged hpaved hinput houtput hnames
          (by rw [place_paved]; exact locate_paved hnot hfile) fault
        rw [room_paved hsound houtput hnames hnot, hroom, place_paved] at hcopy
        simp only [hwrite, hcopy]
        unfold copyVerdict
        by_cases hsame : input.names = output.names
        · -- The way to the input is there.
          have hplace : fs.place input = fs.place output := by rw [place, place, hsame]
          have hheld := at?_dropLast_of_locate hsound hfile
          rw [hplace] at hheld
          simp [hsame, Effect.on, paved_of_directory hsound hheld]
        · simp [hsame, Effect.on, paved_of_directory hpaved (at?_paved_self fs _)]

end Converter

end CommentSwitch
