import CommentSwitch.Proofs.Files.PlainPaths

/-!
# Where paths lead

The segments of a path say a place, whether or not the directories on the way are there.  What
the path is found to lead to, or where it says that something is to be put, is always there.

- `FileSystem.lead`: the place that a path says
- `FileSystem.eq_lead_of_locate`, `FileSystem.Writable.eq_lead`: things are found there
- `FileSystem.lead_along`, `FileSystem.lead_directory`: longer and shorter paths
- `FileSystem.Touched`: some files are written, and no other file changes
-/

namespace CommentSwitch

namespace Path

variable {p : Path} {name : Text}

/-! ## §1 Names -/

/-- The last name of a path, if it has one, is the last of its names. -/
theorem names_of_fileName? (h : p.fileName? = some name) :
    ∃ init, p.names = init ++ [name] ∧ FileSystem.IsName name := by
  obtain ⟨trail, hbody, htrail⟩ := exists_dropVoid_append p.body
  rcases dropVoid_eq_nil_or_concat p.body with hnil | ⟨init, last, hconcat, hlast⟩
  · simp [fileName?, hnil] at h
  · rw [fileName?, hconcat, List.getLast?_concat] at h
    obtain ⟨hdots, rfl⟩ : last ≠ dots ∧ last = name := by simpa using h
    refine ⟨init.filter (!isVoid ·), ?_, hlast, hdots⟩
    rw [names, hbody, List.filter_append, filter_of_forall_isVoid htrail, hconcat]
    simp [hlast]

/-- A name that is put behind a path is its last one. -/
theorem fileName?_join_single (p : Path) (hname : FileSystem.IsName name) :
    (p.join (single name)).fileName? = some name := by
  have hnames := p.names_join_single hname.1
  obtain ⟨trail, hbody, htrail⟩ := exists_dropVoid_append (p.join (single name)).body
  rw [names, hbody, List.filter_append, filter_of_forall_isVoid htrail, List.append_nil] at hnames
  rcases dropVoid_eq_nil_or_concat (p.join (single name)).body with
    hnil | ⟨init, last, hconcat, hlast⟩
  · simp [hnil] at hnames
  · rw [hconcat] at hnames
    obtain rfl : last = name := by
      have hlasts := congrArg List.getLast? hnames
      simpa [hlast] using hlasts
    rw [fileName?, hconcat, List.getLast?_concat]
    simp [hname.2]

theorem fileName?_along (p : Path) {names : List Text} (hne : names ≠ [])
    (hnames : ∀ s ∈ names, FileSystem.IsName s) : (p.along names).fileName? = names.getLast? := by
  induction names generalizing p with
  | nil => exact absurd rfl hne
  | cons s names ih =>
    obtain ⟨hs, hnames⟩ := List.forall_mem_cons.mp hnames
    rw [along_cons]
    by_cases hnil : names = []
    · rw [hnil, along_nil, fileName?_join_single p hs, List.getLast?_singleton]
    · rw [ih _ hnil hnames, List.getLast?_cons_of_ne_nil hnil]

end Path

namespace FileSystem

variable {fs mid after : FileSystem} {p q : Path} {l m : Location}

/-! ## §2 Places that are said -/

/-- The place that the segments of a path say. -/
def lead (fs : FileSystem) (p : Path) : Location := p.segments.foldl next (fs.origin p)

theorem eq_foldl_of_follow {segments : List Text} (h : fs.follow l segments = .ok m) :
    m = segments.foldl next l := by
  induction segments generalizing l with
  | nil => exact (Except.ok.inj h).symm
  | cons s rest ih => exact ih (follow_cons_eq_ok_iff.mp h).2

/-- What a path leads to is at the place that it says. -/
theorem eq_lead_of_locate {e : Entry} (h : fs.locate p = .ok (l, e)) : l = fs.lead p :=
  eq_foldl_of_follow (locate_eq_ok_iff.mp h).2.1

theorem foldl_next_of_forall_nil {trail : List Text} (htrail : ∀ s ∈ trail, s = []) :
    trail.foldl next l = l := by
  induction trail with
  | nil => rfl
  | cons s trail ih =>
    obtain ⟨rfl, hrest⟩ := List.forall_mem_cons.mp htrail
    exact ih hrest

/-- A file is written at the place that its path says. -/
theorem Writable.eq_lead (h : fs.Writable p l) : l = fs.lead p := by
  obtain ⟨way, trail, hsegments, htrail, -, hway⟩ := follow_slot h.slot_eq
  rw [lead, hsegments, List.foldl_append, ← eq_foldl_of_follow hway,
    foldl_next_of_forall_nil htrail]

theorem KeepsDirectories.lead_eq (h : KeepsDirectories fs after) (p : Path) :
    after.lead p = fs.lead p := by
  rw [lead, lead, h.origin_eq]

theorem foldl_next_filter (l : Location) (segments : List Text) :
    segments.foldl next l = (segments.filter (!Path.isVoid ·)).foldl next l := by
  induction segments generalizing l with
  | nil => rfl
  | cons s rest ih =>
    rw [List.foldl_cons, ih]
    cases hvoid : Path.isVoid s with
    | true => rw [next_of_isVoid hvoid, List.filter_cons_of_neg (by simp [hvoid])]
    | false => rw [List.filter_cons_of_pos (by simp [hvoid]), List.foldl_cons]

/-- A path says a place by its names, and by where it starts. -/
theorem lead_eq_names (fs : FileSystem) (p : Path) :
    fs.lead p = p.names.foldl next (fs.origin p) := by
  rw [lead, foldl_next_filter, Path.names_eq]

theorem lead_eq_of_isSame (h : p.isSame q = true) : fs.lead p = fs.lead q := by
  obtain ⟨hfront, hnames⟩ : p.front = q.front ∧ p.names = q.names := by
    simpa [Path.isSame] using h
  rw [lead_eq_names, lead_eq_names, hnames, origin_congr (Path.isAbsolute_congr hfront)]

/-! ## §3 Longer and shorter paths -/

theorem lead_join_single (fs : FileSystem) (p : Path) {name : Text} (hname : IsName name) :
    fs.lead (p.join (.single name)) = fs.lead p ++ [name] := by
  rw [lead_eq_names, lead_eq_names, Path.names_join_single p hname.1, List.foldl_append,
    origin_congr (Path.isAbsolute_join_single p name)]
  exact next_of_isName hname _

/-- Names behind a path lead on from the place that it says. -/
theorem lead_along (fs : FileSystem) (p : Path) {names : List Text}
    (hnames : ∀ s ∈ names, IsName s) : fs.lead (p.along names) = fs.lead p ++ names := by
  induction names generalizing p with
  | nil => rw [Path.along_nil, List.append_nil]
  | cons s names ih =>
    obtain ⟨hs, hnames⟩ := List.forall_mem_cons.mp hnames
    rw [Path.along_cons, ih _ hnames, lead_join_single fs p hs, List.append_assoc]
    rfl

/-- The directory of a path says the place in front of its last name. -/
theorem lead_directory (fs : FileSystem) {name : Text} (h : p.fileName? = some name) :
    fs.lead p = fs.lead p.directory ++ [name] := by
  obtain ⟨init, hconcat, hname⟩ := Path.names_of_fileName? h
  have hne : p.names ≠ [] := by simp [hconcat]
  have habsolute : p.directory.isAbsolute = p.isAbsolute := by
    rw [Path.directory, Path.holder?]
    rcases p.parent?_eq with ⟨hnil, -⟩ | ⟨d, voids, s, trail, -, -, -, -, hparent⟩
    · exact absurd hnil hne
    · rw [hparent, Option.filter_some]
      rcases Path.parent?_cases hparent with ⟨hq, habs⟩ | ⟨hq, habs⟩ | ⟨-, -, -, habs⟩
      · rw [hq, habs]
        rfl
      · rw [hq, habs]
        rfl
      · split
        · exact habs
        · next hempty =>
          -- The empty path and a single dot both start where paths start.
          have hq : (Path.ofParts p.front d).segments = [[]] := by
            simpa [Path.isEmpty] using hempty
          have hrelative : (Path.ofParts p.front d).isAbsolute = false := by
            rw [Path.isAbsolute, hq]
          rw [← habs, hrelative]
          rfl
  rw [lead_eq_names, lead_eq_names, Path.names_directory hne, hconcat, List.dropLast_concat,
    List.foldl_append, origin_congr habsolute]
  exact next_of_isName hname _

/-- In front of something that it leads on to, a path leads to a directory. -/
theorem isDirectory_of_locate_join (hempty : p.isEmpty = false) {name : Text}
    {x : Location × Entry} (h : fs.locate (p.join (.single name)) = .ok x) :
    fs.isDirectory p = true := by
  obtain ⟨-, hfollow, -⟩ := locate_eq_ok_iff.mp h
  obtain ⟨init, hjoin, hp⟩ := p.segments_join_single name
  rw [hjoin, origin_congr (Path.isAbsolute_join_single p name)] at hfollow
  obtain ⟨mid, hinit, hmid, -⟩ := follow_concat_eq_ok_iff.mp hfollow
  refine isDirectory_eq_true_iff.mpr ⟨mid, locate_eq_ok_iff.mpr ⟨hempty, ?_, hmid⟩⟩
  rcases hp with hp | ⟨hp, -⟩
  · rw [hp]
    exact follow_concat_nil_eq_ok_iff.mpr ⟨hinit, hmid⟩
  · rwa [hp]

theorem isEmpty_join_single (p : Path) {name : Text} (hname : name ≠ []) :
    (p.join (.single name)).isEmpty = false := by
  obtain ⟨init, hjoin, -⟩ := p.segments_join_single name
  rw [Path.isEmpty, hjoin]
  cases init <;> simp [hname]

theorem isDirectory_of_locate_along (hempty : p.isEmpty = false) {names : List Text}
    (hne : names ≠ []) (hnames : ∀ s ∈ names, IsName s) {x : Location × Entry}
    (h : fs.locate (p.along names) = .ok x) : fs.isDirectory p = true := by
  induction names generalizing p with
  | nil => exact absurd rfl hne
  | cons s names ih =>
    obtain ⟨hs, hnames⟩ := List.forall_mem_cons.mp hnames
    rw [Path.along_cons] at h
    by_cases hnil : names = []
    · rw [hnil] at h
      exact isDirectory_of_locate_join hempty h
    · have hdir := ih (isEmpty_join_single p (isName_iff.mp hs).1) hnil hnames h
      obtain ⟨l, hl⟩ := isDirectory_eq_true_iff.mp hdir
      exact isDirectory_of_locate_join hempty hl

/-- Where something is the directory of a path is there. -/
theorem isDirectory_directory (hsound : fs.Sound) {x : Location × Entry}
    (h : fs.locate p = .ok x) : fs.isDirectory p.directory = true := by
  rw [Path.directory]
  cases hholder : p.holder? with
  | some q =>
    exact isDirectory_of_parent? h (Path.parent?_of_holder? hholder)
      (Path.isEmpty_of_holder? hholder)
  | none =>
    refine isDirectory_eq_true_iff.mpr ⟨fs.start, locate_eq_ok_iff.mpr ⟨rfl, ?_, hsound.start⟩⟩
    exact follow_cons_eq_ok_iff.mpr ⟨hsound.start, rfl⟩

/-- Something beneath a path that has a last name lies in the directory of the path as well. -/
theorem isDirectory_directory_of_locate_along (hsound : fs.Sound) {name : Text}
    (hname : p.fileName? = some name) {names : List Text} (hne : names ≠ [])
    (hnames : ∀ s ∈ names, IsName s) {x : Location × Entry}
    (h : fs.locate (p.along names) = .ok x) : fs.isDirectory p.directory = true := by
  have hempty : p.isEmpty = false := by
    rw [← Bool.not_eq_true]
    intro hempty
    obtain ⟨init, hconcat, -⟩ := Path.names_of_fileName? hname
    simp [Path.names_of_isEmpty hempty] at hconcat
  have hdir := isDirectory_of_locate_along hempty hne hnames h
  obtain ⟨l, hl⟩ := isDirectory_eq_true_iff.mp hdir
  exact isDirectory_directory hsound hl

/-! ## §4 Files that are written -/

/-- Files may be written at some places and directories may appear; no other file changes. -/
structure Touched (places : List Location) (fs after : FileSystem) : Prop
    extends KeepsDirectories fs after where
  sound : fs.Sound → after.Sound
  file_iff : ∀ l ∉ places, ∀ content,
    after.at? l = some (.file content) ↔ fs.at? l = some (.file content)

theorem Touched.refl (fs : FileSystem) : Touched [] fs fs :=
  ⟨.refl fs, id, fun _ _ _ => .rfl⟩

theorem Touched.trans {places places' : List Location} (h : Touched places fs mid)
    (h' : Touched places' mid after) : Touched (places ++ places') fs after where
  toKeepsDirectories := h.toKeepsDirectories.trans h'.toKeepsDirectories
  sound hsound := h'.sound (h.sound hsound)
  file_iff l hl content := by
    obtain ⟨hplaces, hplaces'⟩ : l ∉ places ∧ l ∉ places' := by simpa using hl
    rw [h'.file_iff l hplaces', h.file_iff l hplaces]

/-- What a path leads to stays unless something else is written there. -/
theorem Touched.locate {places : List Location} (h : Touched places fs after)
    {content : ByteArray} (hl : l ∉ places) (hp : fs.locate p = .ok (l, .file content)) :
    after.locate p = .ok (l, .file content) :=
  h.toKeepsDirectories.locate hp
    ((h.file_iff l hl content).mpr (locate_eq_ok_iff.mp hp).2.2)

/-- A file is written behind directories that have appeared. -/
theorem Grows.touched_put (h : Grows q fs mid) (hwritable : mid.Writable p l)
    (content : ByteArray) : Touched [fs.lead p] fs (mid.put l (.file content)) := by
  have hl : l = fs.lead p := by rw [hwritable.eq_lead, h.keepsDirectories.lead_eq]
  have hkeeps := hwritable.keepsDirectories content
  refine ⟨h.keepsDirectories.trans hkeeps, fun hsound => ?_, fun m hm old => ?_⟩
  · exact (h.sound hsound).put hwritable.slot_eq fun hdir => absurd hdir hwritable.not_directory
  · have hml : m ≠ l := by simpa [hl] using hm
    rw [at?_put_of_ne hwritable.ne_nil _ hml]
    exact h.file_iff m old

end FileSystem

end CommentSwitch
