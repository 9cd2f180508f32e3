import CommentSwitch.Proofs.Converter.Runs

/-!
# All or nothing

The conversion of a file either leaves the whole output, or what was there before.  Nothing
but the output and the directories on the way to it changes, and the input changes only
where it is the output.

There is one way to lose a file: a file that can not be read as text is copied, and the
output, which has led nowhere, leads to the input once its directory is created.

- `Converter.Settled`: what the conversion of a file is to come to
- `FileSystem.ChangesOnly`: nothing changes but a file and the directories on the way to it
- `Converter.convertFileNamed_allOrNothing`: every conversion is all or nothing, unless its
  paths meet late
- `Converter.not_settled_meetingLate`: a file that is lost
-/

namespace CommentSwitch

open FileAction

/-! ## §1 Changes -/

namespace FileSystem

variable {fs after : FileSystem} {input output : Path}

/-- Nothing changes but the file that a path leads to in the end, and directories on the way
of the path that were missing. -/
structure ChangesOnly (output : Path) (fs after : FileSystem) : Prop where
  start_eq : after.start = fs.start
  at?_eq : ∀ l, after.at? l = fs.at? l ∨
    (fs.at? l = none ∧ after.at? l = some .directory ∧ after.Passes output l) ∨
    (fs.at? l ≠ some .directory ∧ ∃ content, after.locate output = .ok (l, .file content))

theorem Grows.changesOnly (h : Grows output fs after) : ChangesOnly output fs after where
  start_eq := h.start_eq
  at?_eq l := by
    cases hl : fs.at? l with
    | none => exact (h.created l hl).imp id fun hcreated => .inl ⟨rfl, hcreated⟩
    | some e => exact .inl (h.kept l e hl)

theorem Grows.changesOnly_put (h : Grows output fs after) {l : Location}
    (hwritable : after.Writable output l) (content : ByteArray) :
    ChangesOnly output fs (after.put l (.file content)) where
  start_eq := h.start_eq
  at?_eq q := by
    have hkeeps := hwritable.keepsDirectories content
    by_cases hq : q = l
    · subst hq
      refine .inr (.inr ⟨?_, content, hwritable.locate_put content⟩)
      intro hdir
      exact hwritable.not_directory (h.kept q _ hdir)
    · rw [at?_put_of_ne hwritable.ne_nil _ hq]
      cases hat : fs.at? q with
      | some e => exact .inl (h.kept q e hat)
      | none =>
        rcases h.created q hat with hnone | ⟨hdir, hpasses⟩
        · exact .inl hnone
        · exact .inr (.inl ⟨rfl, hdir, hkeeps.passes hpasses⟩)

/-- What a path leads to stays, or the path leads to what is written. -/
theorem contentAt_put_or_isSamePlace {l : Location} (hwritable : fs.Writable output l)
    (content : ByteArray) {old : ByteArray} (hinput : fs.contentAt input = .ok old) :
    (fs.put l (.file content)).contentAt input = .ok old ∨
      (fs.put l (.file content)).isSamePlace input output = true := by
  obtain ⟨m, hlocate⟩ := contentAt_eq_ok_iff.mp hinput
  have hkeeps := hwritable.keepsDirectories content
  by_cases hm : m = l
  · right
    rw [hm] at hlocate
    have hplace := hkeeps.locate hlocate (at?_put_self hwritable.ne_nil _)
    exact isSamePlace_eq_true_iff.mpr ⟨l, _, hplace, hwritable.locate_put content⟩
  · left
    refine contentAt_eq_ok_iff.mpr ⟨m, hkeeps.locate hlocate ?_⟩
    rw [at?_put_of_ne hwritable.ne_nil _ hm]
    exact (locate_eq_ok_iff.mp hlocate).2.2

/-- The output leads to the input only after the directory for it has been created. -/
def MeetsLate (fs : FileSystem) (input output : Path) : Prop :=
  fs.isSameFile input output = false ∧ (fs.made output).isSamePlace input output = true

instance (fs : FileSystem) (input output : Path) : Decidable (fs.MeetsLate input output) :=
  inferInstanceAs (Decidable (_ ∧ _))

end FileSystem

/-! ## §2 Conversions -/

namespace Converter

open FileSystem

variable {c : Converter} {name : Option Text} {input output : Path} {fs after : FileSystem}
  {result : Except Failure FileReport}

/-- What the conversion of a file is to come to: the whole output, or nothing. -/
inductive Settled (c : Converter) (name : Option Text) (input output : Path)
    (fs after : FileSystem) : Except Failure FileReport → Prop
  | transformed {content : Text} {converted : List Text}
      (htext : fs.textAt input = .ok content)
      (hlines : c.convertLines name (Text.lines content) = .ok converted)
      (hholds : after.contentAt output = .ok (bytesOf (Text.unlines converted))) :
      Settled c name input output fs after
        (.ok ⟨input, output, .transformed (Text.lines content).length converted.length⟩)
  | refused {content : Text} {d : Diagnostic}
      (htext : fs.textAt input = .ok content)
      (hlines : c.convertLines name (Text.lines content) = .error d)
      (hsame : after = fs) :
      Settled c name input output fs after (.error (.directives d))
  | kept {reason : Text}
      (hfile : fs.isSameFile input output = true)
      (hsame : after = fs) :
      Settled c name input output fs after (.ok ⟨input, output, .copied reason⟩)
  | copied {reason : Text} {content : ByteArray}
      (hread : after.contentAt input = .ok content)
      (hold : ∀ old, fs.contentAt input = .ok old → content = old)
      (hholds : after.contentAt output = .ok content) :
      Settled c name input output fs after (.ok ⟨input, output, .copied reason⟩)
  | failed {failure : Failure}
      (hother : ∀ d, failure ≠ .directives d)
      (hfiles : ∀ l content, fs.at? l = some (.file content) →
        after.at? l = some (.file content)) :
      Settled c name input output fs after (.error failure)

theorem Ran.changesOnly (h : Ran c name input output fs result after) :
    ChangesOnly output fs after := by
  have hgrows := grows_made fs output
  cases h with
  | written htext hlines hwritable => exact hgrows.changesOnly_put hwritable _
  | refused htext hlines => exact (Grows.refl output fs).changesOnly
  | kept hsame => exact (Grows.refl output fs).changesOnly
  | copied hfault hsame hinput hwritable => exact hgrows.changesOnly_put hwritable _
  | failed hother => exact hgrows.changesOnly

/-- The input stays, or it is the output. -/
theorem Ran.contentAt_or_isSamePlace (h : Ran c name input output fs result after)
    {content : ByteArray} (hinput : fs.contentAt input = .ok content) :
    after.contentAt input = .ok content ∨ after.isSamePlace input output = true := by
  obtain ⟨m, hlocate⟩ := contentAt_eq_ok_iff.mp hinput
  have hmade : (fs.made output).contentAt input = .ok content :=
    contentAt_eq_ok_iff.mpr ⟨m, (grows_made fs output).locate hlocate⟩
  cases h with
  | written htext hlines hwritable => exact contentAt_put_or_isSamePlace hwritable _ hmade
  | refused htext hlines => exact .inl hinput
  | kept hsame => exact .inl hinput
  | copied hfault hsame hread hwritable => exact contentAt_put_or_isSamePlace hwritable _ hmade
  | failed hother => exact .inl hmade

/-- A run leaves the whole output or nothing, unless a file that is no text is copied and the
paths meet late. -/
theorem Ran.settled (h : Ran c name input output fs result after)
    (hmeets : fs.MeetsLate input output → ∃ content, fs.textAt input = .ok content) :
    Settled c name input output fs after result := by
  cases h with
  | written htext hlines hwritable =>
    exact .transformed htext hlines (contentAt_eq_ok_iff.mpr ⟨_, hwritable.locate_put _⟩)
  | refused htext hlines => exact .refused htext hlines rfl
  | kept hsame => exact .kept hsame rfl
  | @copied fault m l content hfault hsame hinput hwritable =>
    have hkeeps := hwritable.keepsDirectories content
    -- A copy onto itself means that the paths have met late.
    have hm : m ≠ l := by
      rintro rfl
      have hplace : (fs.made output).isSamePlace input output = true :=
        isSamePlace_eq_true_iff.mpr ⟨m, _, hinput,
          locate_of_slot hwritable.slot_eq (locate_eq_ok_iff.mp hinput).2.2⟩
      obtain ⟨text, htext⟩ := hmeets ⟨hsame, hplace⟩
      simp [htext] at hfault
    rw [if_neg hm]
    have hread : ((fs.made output).put l (.file content)).contentAt input = .ok content := by
      refine contentAt_eq_ok_iff.mpr ⟨m, hkeeps.locate hinput ?_⟩
      rw [at?_put_of_ne hwritable.ne_nil _ hm]
      exact (locate_eq_ok_iff.mp hinput).2.2
    have hholds : ((fs.made output).put l (.file content)).contentAt output = .ok content :=
      contentAt_eq_ok_iff.mpr ⟨l, hwritable.locate_put content⟩
    refine .copied hread (fun old hold => ?_) hholds
    obtain ⟨m', hlocate⟩ := contentAt_eq_ok_iff.mp hold
    have hmade := (grows_made fs output).locate hlocate
    have hsame : m = m' ∧ content = old := by simpa [hinput] using hmade
    exact hsame.2
  | failed hother => exact .failed hother fun l content hl => (grows_made fs output).kept l _ hl

/-- The conversion of a file is all or nothing, and changes nothing but the output and missing
directories on the way to it; the input changes only where it is the output. -/
theorem convertFileNamed_allOrNothing (c : Converter) (name : Option Text) (input output : Path)
    {fs : FileSystem} (hsound : fs.Sound)
    (hmeets : fs.MeetsLate input output → ∃ content, fs.textAt input = .ok content) :
    let run := (c.convertFileNamed name input output).runOn fs
    Settled c name input output fs run.2 run.1 ∧ ChangesOnly output fs run.2 ∧
      ∀ content, fs.contentAt input = .ok content →
        run.2.contentAt input = .ok content ∨ run.2.isSamePlace input output = true := by
  intro run
  have hran : Ran c name input output fs run.1 run.2 :=
    ran_convertFileNamed c name input output hsound
  exact ⟨hran.settled hmeets, hran.changesOnly,
    fun _ hinput => hran.contentAt_or_isSamePlace hinput⟩

/-- A text that lies where paths start. -/
def note : FileSystem :=
  ⟨.ofList [([Text.ofString "note.txt"], .file (bytesOf (Text.ofString "one")))], []⟩

theorem convertFileNamed_note_newDirectory :
    let input := Path.ofText (Text.ofString "note.txt")
    let output := Path.ofText (Text.ofString "new/note.txt")
    let run := (standard.convertFileNamed none input output).runOn note
    note.Sound ∧ ¬ note.MeetsLate input output ∧
      run.2.contentAt output = .ok (bytesOf (Text.ofString "one\n")) ∧
      Settled standard none input output note run.2 run.1 ∧ ChangesOnly output note run.2 ∧
      ∀ content, note.contentAt input = .ok content →
        run.2.contentAt input = .ok content ∨ run.2.isSamePlace input output = true := by
  intro input output run
  have hsound : note.Sound := by decide +kernel
  have hmeets : ¬ note.MeetsLate input output := by decide +kernel
  refine ⟨hsound, hmeets, by decide +kernel, ?_⟩
  exact convertFileNamed_allOrNothing standard none input output hsound fun h => absurd h hmeets

/-- Bytes that are no text. -/
def noise : FileSystem := ⟨.ofList [([Text.ofString "noise"], .file ⟨#[0x89, 0xff]⟩)], []⟩

/-- A file is lost that is copied to a path which leads back to it through a directory that is
not there yet. -/
theorem not_settled_meetingLate :
    let input := Path.ofText (Text.ofString "noise")
    let output := Path.ofText (Text.ofString "new/../noise")
    let run := (standard.convertFileNamed none input output).runOn noise
    noise.Sound ∧ run.2.contentAt input = .ok ByteArray.empty ∧
      ¬ Settled standard none input output noise run.2 run.1 := by
  intro input output run
  have hlost : run.2.contentAt input = .ok ByteArray.empty := by decide +kernel
  have hold : noise.contentAt input = .ok ⟨#[0x89, 0xff]⟩ := by decide +kernel
  have hresult : ∃ reason, run.1 = .ok ⟨input, output, .copied reason⟩ :=
    ⟨FileFault.notText.text, by decide +kernel⟩
  refine ⟨by decide +kernel, hlost, fun hsettled => ?_⟩
  obtain ⟨reason, hresult⟩ := hresult
  rw [hresult] at hsettled
  cases hsettled with
  | kept hfile hsame =>
    rw [hsame, hold] at hlost
    cases hlost
  | @copied reason content hread hkept hholds =>
    rw [hkept _ hold, hlost] at hread
    cases hread

end Converter

end CommentSwitch
