import CommentSwitch.Proofs.Files.Operations

/-!
# Plain paths

A path that starts where paths start, and that never goes up, leads to the place that its
names say, whatever the file system holds.

- `Path.Plain`, `FileSystem.place`: plain paths, and the places that their names say
- `Path.names_along`, `Path.names_directory`, `Path.fileName?_eq`: the names of parts
- `FileSystem.eq_place_of_locate`, `FileSystem.Writable.eq_place`: where plain paths lead
- `FileSystem.locate_along`: what lies beneath a path is found along its names
-/

namespace CommentSwitch

namespace Path

variable {p : Path}

/-! ## §1 Plain paths -/

/-- A path that does not start at the root and never goes up. -/
structure Plain (p : Path) : Prop where
  relative : p.isAbsolute = false
  straight : dots ∉ p.segments

instance (p : Path) : Decidable p.Plain :=
  decidable_of_iff (p.isAbsolute = false ∧ dots ∉ p.segments)
    ⟨fun h => ⟨h.1, h.2⟩, fun h => ⟨h.relative, h.straight⟩⟩

theorem Plain.straight_of_prefix (h : p.Plain) {way : List Text} (hway : way <+: p.segments) :
    dots ∉ way := fun hdots => h.straight (hway.subset hdots)

theorem mem_segments_of_mem_names {s : Text} (hs : s ∈ p.names) : s ∈ p.segments := by
  rw [names_eq] at hs
  exact (List.mem_filter.mp hs).1

theorem isVoid_of_mem_names {s : Text} (hs : s ∈ p.names) : isVoid s = false := by
  rw [names_eq] at hs
  simpa using (List.mem_filter.mp hs).2

/-- The last name of a plain path. -/
theorem Plain.fileName?_eq (h : p.Plain) : p.fileName? = p.names.getLast? := by
  obtain ⟨trail, hbody, htrail⟩ := exists_dropVoid_append p.body
  have hnames : p.names = (dropVoid p.body).filter (!isVoid ·) := by
    rw [names]
    conv_lhs => rw [hbody]
    rw [List.filter_append, filter_of_forall_isVoid htrail, List.append_nil]
  rcases dropVoid_eq_nil_or_concat p.body with hnil | ⟨init, name, hconcat, hname⟩
  · rw [fileName?, hnames, hnil]
    rfl
  · have hlast : p.names = init.filter (!isVoid ·) ++ [name] := by
      rw [hnames, hconcat]
      simp [hname]
    have hdots : name ≠ dots := by
      rintro rfl
      exact h.straight (mem_segments_of_mem_names (by simp [hlast]))
    rw [fileName?, hconcat, hlast]
    simp [hdots]

/-! ## §2 Longer paths -/

theorem isAbsolute_single (name : Text) : (single name).isAbsolute = false := by
  cases name <;> rfl

/-- One more name is put behind a path, whose last slash may be used for it. -/
theorem segments_join_single (p : Path) (name : Text) :
    ∃ init, (p.join (single name)).segments = init ++ [name] ∧
      (p.segments = init ++ [[]] ∨ (p.segments = init ∧ init ≠ [[]])) := by
  rw [join, if_neg (by simp [isAbsolute_single])]
  split
  · next hlast =>
    obtain ⟨init, hinit⟩ := List.getLast?_eq_some_iff.mp hlast
    exact ⟨init, by simp [hinit, single], .inl hinit⟩
  · next hlast =>
    refine ⟨p.segments, rfl, .inr ⟨rfl, fun hnil => ?_⟩⟩
    simp [hnil] at hlast

theorem isAbsolute_join_single (p : Path) (name : Text) :
    (p.join (single name)).isAbsolute = p.isAbsolute := by
  obtain ⟨init, hjoin, hp⟩ := p.segments_join_single name
  rw [isAbsolute, isAbsolute, hjoin]
  rcases init with _ | ⟨_ | ⟨c, s⟩, rest⟩
  · rcases hp with hp | ⟨hp, -⟩ <;> rw [hp] <;> cases name <;> rfl
  · rcases hp with hp | ⟨hp, hne⟩
    · rw [hp]
      cases rest <;> rfl
    · rw [hp]
      cases rest with
      | nil => exact absurd rfl hne
      | cons s rest => rfl
  · rcases hp with hp | ⟨hp, -⟩ <;> rw [hp] <;> rfl

theorem names_join_single (p : Path) {name : Text} (hname : isVoid name = false) :
    (p.join (single name)).names = p.names ++ [name] := by
  obtain ⟨init, hjoin, hp | ⟨hp, -⟩⟩ := p.segments_join_single name
  · rw [names_eq, names_eq, hjoin, hp]
    simp [hname, show isVoid [] = true from rfl]
  · rw [names_eq, names_eq, hjoin, hp]
    simp [hname]

theorem Plain.join_single (h : p.Plain) {name : Text} (hname : name ≠ dots) :
    (p.join (single name)).Plain := by
  obtain ⟨init, hjoin, hp⟩ := p.segments_join_single name
  have hmem : dots ∉ init := by
    intro hdots
    refine h.straight ?_
    rcases hp with hp | ⟨hp, -⟩
    · simp [hp, hdots]
    · rwa [hp]
  refine ⟨?_, ?_⟩
  · rw [isAbsolute_join_single, h.relative]
  · rw [hjoin, List.mem_append, List.mem_singleton]
    rintro (hdots | hdots)
    · exact hmem hdots
    · exact hname hdots.symm

@[simp] theorem along_nil (p : Path) : p.along [] = p := rfl

theorem along_cons (p : Path) (name : Text) (names : List Text) :
    p.along (name :: names) = (p.join (single name)).along names := rfl

theorem names_along (p : Path) {names : List Text} (hnames : ∀ s ∈ names, isVoid s = false) :
    (p.along names).names = p.names ++ names := by
  induction names generalizing p with
  | nil => simp
  | cons name names ih =>
    obtain ⟨hname, hnames⟩ := List.forall_mem_cons.mp hnames
    rw [along_cons, ih _ hnames, names_join_single p hname, List.append_assoc]
    rfl

theorem Plain.along (h : p.Plain) {names : List Text} (hnames : dots ∉ names) :
    (p.along names).Plain := by
  induction names generalizing p with
  | nil => exact h
  | cons name names ih =>
    obtain ⟨hname, hnames⟩ : dots ≠ name ∧ dots ∉ names := by simpa using hnames
    rw [along_cons]
    exact ih (h.join_single hname.symm) hnames

/-! ## §3 The directory of a path -/

theorem names_of_isEmpty (h : p.isEmpty = true) : p.names = [] := by
  have hsegments : p.segments = [[]] := by simpa [isEmpty] using h
  rw [names_eq, hsegments]
  rfl

/-- The directory that holds a path has its names but the last. -/
theorem names_directory (h : p.names ≠ []) : p.directory.names = p.names.dropLast := by
  rw [directory, holder?]
  rcases p.parent?_eq with ⟨hnil, -⟩ | ⟨d, voids, name, trail, -, -, -, -, hsome⟩
  · exact absurd hnil h
  · have hnames := names_of_parent? hsome
    rw [hsome, Option.filter_some]
    split
    · exact hnames
    · next hempty =>
      -- The parent is not written, so nothing stands in front of the last name.
      have hq : (ofParts p.front d).isEmpty = true := by simpa using hempty
      rw [← hnames, names_of_isEmpty hq]
      rfl

theorem Plain.directory (h : p.Plain) : p.directory.Plain := by
  rw [Path.directory, holder?]
  cases hparent : p.parent? with
  | none => decide
  | some q =>
    rw [Option.filter_some]
    split
    · rcases parent?_cases hparent with ⟨rfl, -⟩ | ⟨rfl, habs⟩ | ⟨rest, -, hsegments, habs⟩
      · decide
      · rw [h.relative] at habs
        cases habs
      · exact ⟨habs.trans h.relative, h.straight_of_prefix ⟨rest, hsegments.symm⟩⟩
    · decide

end Path

namespace FileSystem

variable {fs after : FileSystem} {p : Path}

/-! ## §4 Places -/

/-- The place that the names of a path say, from where paths start. -/
def place (fs : FileSystem) (p : Path) : Location := fs.start ++ p.names

theorem KeepsDirectories.place_eq (h : KeepsDirectories fs after) (p : Path) :
    after.place p = fs.place p := by
  rw [place, place, h.start_eq]

/-- Segments that never go up lead along their names. -/
theorem follow_straight {l m : Location} {segments : List Text} (hstraight : Path.dots ∉ segments)
    (h : fs.follow l segments = .ok m) : m = l ++ segments.filter (!Path.isVoid ·) := by
  induction segments generalizing l with
  | nil => simpa using (Except.ok.inj h).symm
  | cons s rest ih =>
    obtain ⟨hs, hrest⟩ : Path.dots ≠ s ∧ Path.dots ∉ rest := by simpa using hstraight
    obtain ⟨-, hfollow⟩ := follow_cons_eq_ok_iff.mp h
    rw [ih hrest hfollow]
    cases hvoid : Path.isVoid s with
    | true => simp [hvoid, next_of_isVoid hvoid]
    | false => simp [hvoid, next_of_isName ⟨hvoid, hs.symm⟩]

theorem Plain.origin_eq (h : p.Plain) (fs : FileSystem) : fs.origin p = fs.start := by
  simp [origin, h.relative]

theorem eq_place_of_locate (hp : p.Plain) {l : Location} {e : Entry}
    (h : fs.locate p = .ok (l, e)) : l = fs.place p := by
  obtain ⟨-, hfollow, -⟩ := locate_eq_ok_iff.mp h
  rw [Plain.origin_eq hp] at hfollow
  rw [place, Path.names_eq]
  exact follow_straight hp.straight hfollow

theorem eq_place_of_slot (hp : p.Plain) {l : Location} {slashed : Bool}
    (h : fs.slot p = .ok (.named l slashed)) : l = fs.place p := by
  obtain ⟨way, trail, hsegments, htrail, -, hway⟩ := follow_slot h
  have hstraight := hp.straight_of_prefix ⟨trail, hsegments.symm⟩
  rw [Plain.origin_eq hp] at hway
  rw [place, Path.names_eq, hsegments, List.filter_append, Path.filter_of_forall_nil htrail,
    List.append_nil]
  exact follow_straight hstraight hway

theorem Writable.eq_place {l : Location} (h : fs.Writable p l) (hp : p.Plain) :
    l = fs.place p := eq_place_of_slot hp h.slot_eq

/-- A plain path passes places on the way to its own. -/
theorem Passes.prefix_place {l : Location} (h : fs.Passes p l) (hp : p.Plain) :
    l <+: fs.place p := by
  obtain ⟨way, ⟨rest, hsegments⟩, hfollow⟩ := h
  have hstraight := hp.straight_of_prefix ⟨rest, hsegments⟩
  rw [Plain.origin_eq hp] at hfollow
  rw [follow_straight hstraight hfollow, place, Path.names_eq, ← hsegments, List.filter_append,
    ← List.append_assoc]
  exact List.prefix_append _ _

theorem follow_of_directory (hsound : fs.Sound) {l : Location} {segments : List Text}
    (hstraight : Path.dots ∉ segments)
    (h : fs.at? (l ++ segments.filter (!Path.isVoid ·)) = some .directory) :
    fs.follow l segments = .ok (l ++ segments.filter (!Path.isVoid ·)) := by
  induction segments generalizing l with
  | nil => simp
  | cons s rest ih =>
    obtain ⟨hs, hrest⟩ : Path.dots ≠ s ∧ Path.dots ∉ rest := by simpa using hstraight
    have hl : fs.at? l = some .directory := by
      by_cases hnil : (s :: rest).filter (!Path.isVoid ·) = []
      · rwa [hnil, List.append_nil] at h
      · exact hsound.at?_of_append hnil h
    rw [follow_cons, hl]
    cases hvoid : Path.isVoid s with
    | true =>
      rw [List.filter_cons_of_neg (by simp [hvoid])] at h ⊢
      rw [next_of_isVoid hvoid]
      exact ih hrest h
    | false =>
      rw [List.filter_cons_of_pos (by simp [hvoid]), List.append_cons] at h ⊢
      rw [next_of_isName ⟨hvoid, hs.symm⟩]
      exact ih hrest h

/-- A plain path leads to the directory at its place. -/
theorem locate_of_directory (hsound : fs.Sound) (hp : p.Plain) (hnames : p.names ≠ [])
    (h : fs.at? (fs.place p) = some .directory) :
    fs.locate p = .ok (fs.place p, .directory) := by
  have hempty : p.isEmpty = false := by
    rw [← Bool.not_eq_true]
    exact fun hempty => hnames (Path.names_of_isEmpty hempty)
  refine locate_eq_ok_iff.mpr ⟨hempty, ?_, h⟩
  rw [place, Path.names_eq] at h ⊢
  rw [Plain.origin_eq hp]
  exact follow_of_directory hsound hp.straight h

/-- A name behind a directory is a slot in it. -/
theorem slot_join_single {name : Text} (hname : IsName name)
    (h : fs.locate p = .ok (l, .directory)) :
    fs.slot (p.join (.single name)) = .ok (.named (l ++ [name]) false) := by
  obtain ⟨-, hfollow, hl⟩ := locate_eq_ok_iff.mp h
  obtain ⟨init, hjoin, hp⟩ := p.segments_join_single name
  have hway : fs.follow (fs.origin p) init = .ok l := by
    rcases hp with hp | ⟨hp, -⟩
    · rw [hp] at hfollow
      exact (follow_concat_nil_eq_ok_iff.mp hfollow).1
    · rwa [← hp]
  refine slot_eq_named_iff.mpr ⟨init, name, [], l, hjoin, hname, nofun, ?_, hl, rfl, rfl⟩
  rw [origin_congr (Path.isAbsolute_join_single p name)]
  exact hway

/-- What lies in a directory is found behind the path to that. -/
theorem locate_join_single {l : Location} {name : Text} {e : Entry} (hname : IsName name)
    (h : fs.locate p = .ok (l, .directory)) (he : fs.at? (l ++ [name]) = some e) :
    fs.locate (p.join (.single name)) = .ok (l ++ [name], e) :=
  locate_of_slot (slot_join_single hname h) he

/-- What lies beneath a path is found along its names. -/
theorem locate_along (hsound : fs.Sound) {l : Location} {e : Entry}
    {names : List Text} {content : ByteArray} (h : fs.locate p = .ok (l, e))
    (hfile : fs.at? (l ++ names) = some (.file content)) :
    fs.locate (p.along names) = .ok (l ++ names, .file content) := by
  induction names generalizing p l e with
  | nil =>
    have he := (locate_eq_ok_iff.mp h).2.2
    rw [List.append_nil] at hfile ⊢
    rw [hfile] at he
    rwa [Option.some.inj he]
  | cons name names ih =>
    have hname : IsName name := hsound.named _ _ hfile name (by simp)
    have hl := hsound.at?_of_append (List.cons_ne_nil name names) hfile
    obtain rfl : e = .directory := by
      have he := (locate_eq_ok_iff.mp h).2.2
      exact Option.some.inj (he.symm.trans hl)
    have hsplit : l ++ name :: names = (l ++ [name]) ++ names := by simp
    rw [hsplit] at hfile ⊢
    -- There is something under the first name: a directory, or the file itself.
    obtain ⟨e', he'⟩ : ∃ e', fs.at? (l ++ [name]) = some e' := by
      by_cases hnames : names = []
      · exact ⟨_, by simpa [hnames] using hfile⟩
      · exact ⟨_, hsound.at?_of_append hnames hfile⟩
    rw [Path.along_cons]
    exact ih (locate_join_single hname h he') hfile

end FileSystem

end CommentSwitch
