import CommentSwitch.Proofs.Files.PlainPaths
import Mathlib.Data.List.Infix

/-!
# Ways that are paved

Exactly what the creation of a directory leaves behind.  On the way of a clean path every
segment is a name, so it either meets a file, and nothing is changed, or all directories that
are missing are created.

- `Path.Clean`: plain paths without dots
- `FileSystem.paved`, `FileSystem.withFile`: a way of directories, and a file at its end
- `FileSystem.Blocked`: a file on the way
- `FileSystem.slot_of_clean`: what the slot of a clean path comes to
- `FileAction.runOn_createFrom_of_clean`: a way is paved, or it is blocked
-/

namespace CommentSwitch

namespace Path

variable {p q : Path}

/-! ## §1 Clean paths -/

/-- A plain path without dots: every segment is a name, or empty. -/
structure Clean (p : Path) : Prop extends p.Plain where
  dotless : dot ∉ p.segments

instance (p : Path) : Decidable p.Clean :=
  decidable_of_iff (p.Plain ∧ ∀ s ∈ p.segments, s ≠ dot)
    ⟨fun h => ⟨h.1, fun hdot => h.2 _ hdot rfl⟩,
      fun h => ⟨h.toPlain, fun _ hs heq => h.dotless (heq ▸ hs)⟩⟩

/-- No segment says where a clean path starts. -/
theorem Clean.front_eq (h : p.Clean) : p.front = [] := by
  rcases p.front_cases with hnil | hroot | hdot
  · exact hnil
  · have habsolute := isAbsolute_iff.mpr hroot
    rw [h.relative] at habsolute
    cases habsolute
  · exfalso
    apply h.dotless
    rw [← front_append_body, hdot]
    exact List.mem_cons_self

/-- Clean paths are written alike if they have the same names. -/
theorem Clean.isSame_iff (hp : p.Clean) (hq : q.Clean) :
    p.isSame q = true ↔ p.names = q.names := by
  simp [isSame, hp.front_eq, hq.front_eq]

/-- The last name of a clean path; only slashes follow it. -/
theorem Clean.exists_last (h : p.Clean) (hnames : p.names ≠ []) :
    ∃ way name trail, p.segments = way ++ name :: trail ∧ FileSystem.IsName name ∧
      (∀ s ∈ trail, s = []) ∧ p.names = way.filter (!isVoid ·) ++ [name] := by
  rcases FileSystem.segments_cases p.segments with hnil | ⟨way, name, trail, hsegments, hname, htrail⟩
  · exfalso
    apply hnames
    rw [names_eq]
    exact filter_of_forall_nil hnil
  · have hmem : name ∈ p.segments := by simp [hsegments]
    have hproper : FileSystem.IsName name := by
      apply FileSystem.isName_iff.mpr
      refine ⟨hname, ?_⟩
      rintro (rfl | rfl)
      · exact h.dotless hmem
      · exact h.straight hmem
    refine ⟨way, name, trail, hsegments, hproper, htrail, ?_⟩
    rw [names_eq, hsegments, List.filter_append, List.filter_cons_of_pos (by simp [hproper.1]),
      filter_of_forall_nil htrail]

/-- Nothing but slashes is written where there are no names. -/
theorem Clean.eq_nil_of_names (h : p.Clean) (hnames : p.names = []) :
    ∀ s ∈ p.segments, s = [] := by
  intro s hs
  rw [names_eq, List.filter_eq_nil_iff] at hnames
  have hvoid : isVoid s = true := by simpa using hnames s hs
  have hdot : s ≠ dot := by
    rintro rfl
    exact h.dotless hs
  simpa [isVoid, hdot] using hvoid

theorem Clean.of_parent? (h : p.Clean) (hparent : p.parent? = some q) : q.Clean := by
  rcases parent?_cases hparent with ⟨rfl, -⟩ | ⟨rfl, habsolute⟩ | ⟨rest, -, hsegments, hsame⟩
  · decide
  · rw [h.relative] at habsolute
    cases habsolute
  · have hway : q.segments <+: p.segments := ⟨rest, hsegments.symm⟩
    exact ⟨⟨hsame.trans h.relative, h.straight_of_prefix hway⟩,
      fun hdot => h.dotless (hway.subset hdot)⟩

/-- A path with a name has a parent. -/
theorem exists_parent? (hnames : p.names ≠ []) : ∃ q, p.parent? = some q := by
  rcases p.parent?_eq with ⟨hnil, -⟩ | ⟨d, -, -, -, -, -, -, -, hsome⟩
  · exact absurd hnil hnames
  · exact ⟨_, hsome⟩

/-- Whether a slash stands at the end of a path. -/
def isSlashed (p : Path) : Bool := p.segments.getLast? == some []

end Path

namespace FileSystem

variable {fs after : FileSystem} {p q : Path} {l m : Location}

/-! ## §2 Ways of directories -/

/-- File systems in which the same is at every place are equal. -/
theorem ext_at? (hstart : fs.start = after.start) (hat : ∀ l, fs.at? l = after.at? l)
    (hroot : fs.entries.get? [] = after.entries.get? []) : fs = after := by
  have hentries : fs.entries = after.entries := by
    apply Dictionary.ext_get?
    intro l
    by_cases hl : l = []
    · rw [hl, hroot]
    · rw [← at?_of_ne_nil hl, ← at?_of_ne_nil hl, hat]
  cases fs
  cases after
  simp_all

theorem get?_nil_put (hl : l ≠ []) (e : Entry) :
    (fs.put l e).entries.get? [] = fs.entries.get? [] := by
  show (fs.entries.insert l e).get? [] = fs.entries.get? []
  rw [Dictionary.get?_insert, if_neg hl.symm]

/-- The file system in which a place is a directory, with all places on the way to it. -/
def paved (fs : FileSystem) (l : Location) : FileSystem :=
  l.inits.tail.foldl (fun fs m => fs.put m .directory) fs

@[simp] theorem paved_nil (fs : FileSystem) : fs.paved [] = fs := rfl

theorem paved_concat (fs : FileSystem) (l : Location) (s : Text) :
    fs.paved (l ++ [s]) = (fs.paved l).put (l ++ [s]) .directory := by
  have hinits : (l ++ [s]).inits.tail = l.inits.tail ++ [l ++ [s]] := by
    rw [List.inits_append]
    cases l <;> simp
  rw [paved, hinits, List.foldl_append]
  rfl

@[simp] theorem start_paved (fs : FileSystem) (l : Location) : (fs.paved l).start = fs.start := by
  induction l using List.reverseRecOn with
  | nil => rfl
  | append_singleton l s ih => rw [paved_concat, start_put, ih]

theorem get?_nil_paved (fs : FileSystem) (l : Location) :
    (fs.paved l).entries.get? [] = fs.entries.get? [] := by
  induction l using List.reverseRecOn with
  | nil => rfl
  | append_singleton l s ih => rw [paved_concat, get?_nil_put (by simp), ih]

theorem at?_paved (fs : FileSystem) (l m : Location) :
    (fs.paved l).at? m = if m <+: l then some .directory else fs.at? m := by
  induction l using List.reverseRecOn with
  | nil => by_cases hm : m = [] <;> simp [hm]
  | append_singleton l s ih =>
    rw [paved_concat, at?_put (by simp), ih]
    simp only [List.prefix_concat_iff]
    by_cases hm : m = l ++ [s] <;> simp [hm]

theorem at?_paved_self (fs : FileSystem) (l : Location) :
    (fs.paved l).at? l = some .directory := by
  rw [at?_paved, if_pos (List.prefix_refl l)]

@[simp] theorem place_paved (fs : FileSystem) (l : Location) (p : Path) :
    (fs.paved l).place p = fs.place p := by
  rw [place, place, start_paved]

/-- The file system in which a file lies at a place, with directories on the way to it. -/
def withFile (fs : FileSystem) (l : Location) (content : ByteArray) : FileSystem :=
  (fs.paved l.dropLast).put l (.file content)

@[simp] theorem start_withFile (fs : FileSystem) (l : Location) (content : ByteArray) :
    (fs.withFile l content).start = fs.start := by
  rw [withFile, start_put, start_paved]

theorem get?_nil_withFile (fs : FileSystem) (hl : l ≠ []) (content : ByteArray) :
    (fs.withFile l content).entries.get? [] = fs.entries.get? [] := by
  rw [withFile, get?_nil_put hl, get?_nil_paved]

theorem prefix_dropLast_iff (hl : l ≠ []) : m <+: l.dropLast ↔ m <+: l ∧ m ≠ l := by
  obtain ⟨init, s, rfl⟩ := (List.eq_nil_or_concat' l).resolve_left hl
  rw [List.dropLast_concat, List.prefix_concat_iff]
  constructor
  · intro hm
    refine ⟨.inr hm, ?_⟩
    rintro rfl
    have hlength := hm.length_le
    rw [List.length_append, List.length_singleton] at hlength
    omega
  · rintro ⟨rfl | hm, hne⟩
    · exact absurd rfl hne
    · exact hm

theorem at?_withFile (fs : FileSystem) (hl : l ≠ []) (content : ByteArray) (m : Location) :
    (fs.withFile l content).at? m =
      if m = l then some (.file content) else if m <+: l then some .directory else fs.at? m := by
  rw [withFile, at?_put hl, at?_paved]
  by_cases hm : m = l
  · simp [hm]
  · simp [hm, prefix_dropLast_iff hl]

/-- What lies on the way to a directory is a directory. -/
theorem Sound.at?_of_prefix (hsound : fs.Sound) (hl : fs.at? l = some .directory)
    (hm : m <+: l) : fs.at? m = some .directory := by
  obtain ⟨rest, rfl⟩ := hm
  by_cases hrest : rest = []
  · rwa [hrest, List.append_nil] at hl
  · exact hsound.at?_of_append hrest hl

theorem Sound.paved (hsound : fs.Sound) (hnames : ∀ s ∈ l, IsName s) : (fs.paved l).Sound where
  start := by
    rw [start_paved, at?_paved]
    split
    · rfl
    · exact hsound.start
  named m e he s hs := by
    rw [at?_paved] at he
    split at he
    · next hm => exact hnames s (hm.subset hs)
    · exact hsound.named m e he s hs
  held m s e he := by
    rw [at?_paved] at he ⊢
    split at he
    · next hm => rw [if_pos ((List.prefix_append _ _).trans hm)]
    · rw [hsound.held m s e he, ite_self]

/-- The way to a directory is paved already. -/
theorem paved_of_directory (hsound : fs.Sound) (hl : fs.at? l = some .directory) :
    fs.paved l = fs := by
  refine ext_at? (start_paved fs l) (fun m => ?_) (get?_nil_paved fs l)
  rw [at?_paved]
  split
  · next hm => rw [hsound.at?_of_prefix hl hm]
  · rfl

/-- A file that is there may be put there once more. -/
theorem withFile_of_file (hsound : fs.Sound) (hne : l ≠ []) {content : ByteArray}
    (hl : fs.at? l = some (.file content)) : fs.withFile l content = fs := by
  refine ext_at? (start_withFile fs l content) (fun m => ?_) (get?_nil_withFile fs hne content)
  rw [at?_withFile fs hne]
  split
  · next hm => rw [hm, hl]
  · next hm =>
    split
    · next hprefix =>
      obtain ⟨rest, rfl⟩ := hprefix
      have hrest : rest ≠ [] := by
        rintro rfl
        simp at hm
      rw [hsound.at?_of_append hrest hl]
    · rfl

/-! ## §3 Files on the way -/

/-- There is a file at a place or on the way to it. -/
def Blocked (fs : FileSystem) (l : Location) : Prop :=
  ∃ m, m <+: l ∧ ∃ content, fs.at? m = some (.file content)

/-- Whether a file is at a place. -/
def holdsFile (fs : FileSystem) (l : Location) : Bool :=
  match fs.at? l with
  | some (.file _) => true
  | _ => false

theorem holdsFile_eq_true_iff : fs.holdsFile l = true ↔ ∃ content, fs.at? l = some (.file content) := by
  unfold holdsFile
  split
  · next content h => simp [h]
  · next hnot =>
    simp only [Bool.false_eq_true, false_iff, not_exists]
    exact fun content h => hnot content h

instance (fs : FileSystem) (l : Location) : Decidable (fs.Blocked l) :=
  decidable_of_iff (∃ m ∈ l.inits, fs.holdsFile m = true) (by
    simp [Blocked, List.mem_inits, holdsFile_eq_true_iff])

theorem Sound.not_blocked (hsound : fs.Sound) (hl : fs.at? l = some .directory) :
    ¬ fs.Blocked l := by
  rintro ⟨m, hm, content, hfile⟩
  rw [hsound.at?_of_prefix hl hm] at hfile
  cases hfile

/-- Nothing goes away when a way is paved that no file is on. -/
theorem at?_paved_of_eq_some (hnot : ¬ fs.Blocked l) {e : Entry} (h : fs.at? m = some e) :
    (fs.paved l).at? m = some e := by
  rw [at?_paved]
  split
  · next hm =>
    cases e with
    | directory => rfl
    | file content => exact absurd ⟨m, hm, content, h⟩ hnot
  · exact h

theorem keepsDirectories_paved (fs : FileSystem) (l : Location) :
    KeepsDirectories fs (fs.paved l) := by
  refine ⟨start_paved fs l, fun m hm => ?_⟩
  rw [at?_paved, hm, ite_self]

/-- What a path leads to stays when a way is paved that no file is on. -/
theorem locate_paved (hnot : ¬ fs.Blocked l) {e : Entry} (h : fs.locate p = .ok (m, e)) :
    (fs.paved l).locate p = .ok (m, e) :=
  (keepsDirectories_paved fs l).locate h (at?_paved_of_eq_some hnot (locate_eq_ok_iff.mp h).2.2)

theorem blocked_concat_iff {s : Text} :
    fs.Blocked (l ++ [s]) ↔ fs.Blocked l ∨ ∃ content, fs.at? (l ++ [s]) = some (.file content) := by
  constructor
  · rintro ⟨m, hm, hfile⟩
    rcases List.prefix_concat_iff.mp hm with rfl | hm
    · exact .inr hfile
    · exact .inl ⟨m, hm, hfile⟩
  · rintro (⟨m, hm, hfile⟩ | hfile)
    · exact ⟨m, hm.trans (List.prefix_append _ _), hfile⟩
    · exact ⟨_, List.prefix_refl _, hfile⟩

/-- Nothing lies where there is no directory to hold it. -/
theorem Sound.at?_eq_none (hsound : fs.Sound) (hheld : fs.at? l.dropLast ≠ some .directory) :
    fs.at? l = none := by
  rcases List.eq_nil_or_concat' l with rfl | ⟨held, s, rfl⟩
  · exact absurd rfl hheld
  · rw [List.dropLast_concat] at hheld
    cases hthere : fs.at? (held ++ [s]) with
    | none => rfl
    | some e => exact absurd (hsound.held held s e hthere) hheld

theorem blocked_iff_of_at?_eq_none (hl : l ≠ []) (hmissing : fs.at? l = none) :
    fs.Blocked l ↔ fs.Blocked l.dropLast := by
  obtain ⟨held, s, rfl⟩ := (List.eq_nil_or_concat' l).resolve_left hl
  rw [blocked_concat_iff, hmissing, List.dropLast_concat]
  simp

/-- Names lead to a directory, or up to a file, or to where nothing is. -/
theorem follow_names (hsound : fs.Sound) {names : List Text} (hnames : ∀ s ∈ names, IsName s)
    (hway : ∀ m, m <+: l → m ≠ l → fs.at? m = some .directory) :
    fs.follow l (names ++ [[]]) =
      if fs.at? (l ++ names) = some .directory then .ok (l ++ names)
      else if fs.Blocked (l ++ names) then .error .notADirectory
      else .error .notFound := by
  induction names generalizing l with
  | nil =>
    rw [List.nil_append, follow_cons, List.append_nil]
    cases hl : fs.at? l with
    | none =>
      have hnot : ¬ fs.Blocked l := by
        rintro ⟨m, hm, content, hfile⟩
        by_cases hml : m = l
        · simp [hml, hl] at hfile
        · simp [hway m hm hml] at hfile
      simp [hnot]
    | some e =>
      cases e with
      | directory => simp
      | file content =>
        have hblocked : fs.Blocked l := ⟨l, List.prefix_refl _, content, hl⟩
        simp [hblocked]
  | cons s rest ih =>
    obtain ⟨hs, hrest⟩ := List.forall_mem_cons.mp hnames
    rw [List.cons_append, follow_cons]
    -- Whatever lies beneath `l` makes it a directory.
    have hbeneath {m : Location} {e : Entry} (hm : l <+: m) (hne : m ≠ l)
        (h : fs.at? m = some e) : fs.at? l = some .directory := by
      obtain ⟨trail, rfl⟩ := hm
      exact hsound.at?_of_append (by simpa using hne) h
    have hlonger : l <+: l ++ s :: rest := List.prefix_append _ _
    have hne : l ++ s :: rest ≠ l := by simp
    cases hl : fs.at? l with
    | none =>
      have hdir : fs.at? (l ++ s :: rest) ≠ some .directory := fun h => by
        simp [hbeneath hlonger hne h] at hl
      have hnot : ¬ fs.Blocked (l ++ s :: rest) := by
        rintro ⟨m, hm, content, hfile⟩
        by_cases hml : m = l
        · simp [hml, hl] at hfile
        · rcases List.prefix_or_prefix_of_prefix hm hlonger with hm' | hm'
          · simp [hway m hm' hml] at hfile
          · simp [hbeneath hm' hml hfile] at hl
      simp [hdir, hnot]
    | some e =>
      cases e with
      | directory =>
        have hway' (m : Location) (hm : m <+: l ++ [s]) (hne : m ≠ l ++ [s]) :
            fs.at? m = some .directory := by
          have hm := (List.prefix_concat_iff.mp hm).resolve_left hne
          exact hsound.at?_of_prefix hl hm
        have hih := ih hrest hway'
        rw [List.append_assoc] at hih
        rw [next_of_isName hs]
        exact hih
      | file content =>
        have hdir : fs.at? (l ++ s :: rest) ≠ some .directory := fun h => by
          simp [hbeneath hlonger hne h] at hl
        have hblocked : fs.Blocked (l ++ s :: rest) := ⟨l, hlonger, content, hl⟩
        simp [hdir, hblocked]

/-- The slot of a clean path lies in a directory, or there is no way to it. -/
theorem slot_of_clean (hsound : fs.Sound) (hp : p.Clean) (hnames : p.names ≠ []) :
    fs.slot p =
      if fs.at? (fs.place p).dropLast = some .directory then
        .ok (.named (fs.place p) p.isSlashed)
      else if fs.Blocked (fs.place p).dropLast then .error .notADirectory
      else .error .notFound := by
  obtain ⟨way, name, trail, hsegments, hname, htrail, hlast⟩ := hp.exists_last hnames
  obtain ⟨hne, hproper⟩ := isName_iff.mp hname
  have hplace : fs.place p = fs.start ++ way.filter (!Path.isVoid ·) ++ [name] := by
    rw [place, hlast, List.append_assoc]
  have hslashed : p.isSlashed = !trail.isEmpty := by
    rw [Path.isSlashed, hsegments]
    rcases List.eq_nil_or_concat' trail with rfl | ⟨init, s, rfl⟩
    · simp [hne]
    · have hs : s = [] := htrail s (by simp)
      rw [hs, ← List.cons_append, ← List.append_assoc, List.getLast?_concat]
      simp
  have hall : ∀ s ∈ way.filter (!Path.isVoid ·), IsName s := by
    intro s hs
    obtain ⟨hmem, hvoid⟩ := List.mem_filter.mp hs
    refine ⟨by simpa using hvoid, ?_⟩
    rintro rfl
    exact hp.straight (by simp [hsegments, hmem])
  have hstart (m : Location) (hm : m <+: fs.start) (_ : m ≠ fs.start) :
      fs.at? m = some .directory := hsound.at?_of_prefix hsound.start hm
  rw [slot_of_segments hsegments hne htrail, Plain.origin_eq hp.toPlain, follow_filter_void,
    follow_names hsound hall hstart, hplace, List.dropLast_concat, ← hslashed]
  simp only [if_neg hproper]
  split
  · rfl
  · split <;> rfl

/-- The place of the parent holds the place of a path. -/
theorem place_of_parent? (hparent : p.parent? = some q) (hnames : p.names ≠ []) :
    fs.place q = (fs.place p).dropLast := by
  rw [place, place, Path.names_of_parent? hparent, List.dropLast_append_of_ne_nil hnames]

theorem isEmpty_of_names (hnames : p.names ≠ []) : p.isEmpty = false := by
  rw [← Bool.not_eq_true]
  exact fun h => hnames (Path.names_of_isEmpty h)

/-- Everything on the way of a clean path has a proper name. -/
theorem isName_of_mem_place (hsound : fs.Sound) (hp : p.Clean) {s : Text}
    (hs : s ∈ fs.place p) : IsName s := by
  rcases List.mem_append.mp hs with hs | hs
  · exact hsound.named _ _ hsound.start s hs
  · refine ⟨Path.isVoid_of_mem_names hs, ?_⟩
    rintro rfl
    exact hp.straight (Path.mem_segments_of_mem_names hs)

theorem sound_paved_dropLast (hsound : fs.Sound) (hp : p.Clean) :
    (fs.paved (fs.place p).dropLast).Sound :=
  hsound.paved fun _ hs => isName_of_mem_place hsound hp (List.mem_of_mem_dropLast hs)

theorem place_ne_nil (fs : FileSystem) (hnames : p.names ≠ []) : fs.place p ≠ [] := by
  intro hnil
  exact hnames (List.append_eq_nil_iff.mp hnil).2

end FileSystem

/-! ## §4 Directories that are created -/

namespace FileAction

open FileSystem

variable {fs : FileSystem} {p q : Path}

/-- In a directory that is there a clean path can be created, unless a file is in its
place. -/
theorem runOn_create_of_clean (hsound : fs.Sound) (hp : p.Clean) (hnames : p.names ≠ [])
    (hheld : fs.at? (fs.place p).dropLast = some .directory) :
    (create p).runOn fs =
      if (fs.at? (fs.place p)).isSome then (.error .exists_, fs)
      else (.ok (), fs.put (fs.place p) .directory) := by
  rw [runOn_create, slot_of_clean hsound hp hnames, if_pos hheld]

theorem isDirectory_of_clean (hsound : fs.Sound) (hp : p.Clean) (hnames : p.names ≠ []) :
    fs.isDirectory p = true ↔ fs.at? (fs.place p) = some .directory := by
  constructor
  · intro h
    obtain ⟨l, hl⟩ := isDirectory_eq_true_iff.mp h
    rw [← eq_place_of_locate hp.toPlain hl]
    exact (locate_eq_ok_iff.mp hl).2.2
  · intro h
    exact isDirectory_eq_true_iff.mpr ⟨_, locate_of_directory hsound hp.toPlain hnames h⟩

/-- In a directory that is there a clean path is created, unless a file is in its place. -/
theorem runOn_createFrom_of_held (hsound : fs.Sound) (fuel : Nat) (hp : p.Clean)
    (hnames : p.names ≠ []) (hheld : fs.at? (fs.place p).dropLast = some .directory) :
    (¬ fs.Blocked (fs.place p) ∧
      (createFrom (fuel + 1) p).runOn fs = (.ok (), fs.paved (fs.place p))) ∨
    (fs.Blocked (fs.place p) ∧ ∃ e, (createFrom (fuel + 1) p).runOn fs = (.error e, fs)) := by
  rw [runOn_createFrom_succ fuel (isEmpty_of_names hnames),
    runOn_create_of_clean hsound hp hnames hheld]
  have hdir := isDirectory_of_clean hsound hp hnames
  cases hthere : fs.at? (fs.place p) with
  | none =>
    left
    obtain ⟨held, name, hplace⟩ : ∃ held name, fs.place p = held ++ [name] :=
      (List.eq_nil_or_concat' _).resolve_left (place_ne_nil fs hnames)
    rw [hplace, List.dropLast_concat] at hheld
    rw [hplace] at hthere ⊢
    refine ⟨?_, ?_⟩
    · rw [blocked_concat_iff]
      simp [hsound.not_blocked hheld, hthere]
    · rw [paved_concat, paved_of_directory hsound hheld]
      rfl
  | some e =>
    cases e with
    | directory =>
      left
      refine ⟨hsound.not_blocked hthere, ?_⟩
      rw [paved_of_directory hsound hthere]
      simp [hdir.mpr hthere]
    | file content =>
      right
      have hnotDir : fs.isDirectory p = false := by
        rw [← Bool.not_eq_true, hdir, hthere]
        simp
      exact ⟨⟨_, List.prefix_refl _, content, hthere⟩, .exists_, by simp [hnotDir]⟩

/-- Behind its parent, which has been created with its way, a clean path is created. -/
theorem runOn_ensure_of_paved (hsound : fs.Sound) (hp : p.Clean) (hnames : p.names ≠ [])
    (hmissing : fs.at? (fs.place p) = none) :
    (ensure p).runOn (fs.paved (fs.place p).dropLast) = (.ok (), fs.paved (fs.place p)) := by
  obtain ⟨held, name, hplace⟩ : ∃ held name, fs.place p = held ++ [name] :=
    (List.eq_nil_or_concat' _).resolve_left (place_ne_nil fs hnames)
  have hdropLast : (fs.place p).dropLast = held := by rw [hplace, List.dropLast_concat]
  have hpaved := sound_paved_dropLast hsound hp
  rw [hdropLast] at hpaved ⊢
  have hnot : ¬ fs.place p <+: held := by
    intro h
    have hlength := h.length_le
    rw [hplace, List.length_append, List.length_singleton] at hlength
    omega
  have hcreate : (create p).runOn (fs.paved held) =
      (.ok (), (fs.paved held).put (fs.place p) .directory) := by
    rw [runOn_create_of_clean hpaved hp hnames, place_paved]
    · simp [at?_paved, hnot, hmissing]
    · rw [place_paved, hdropLast, at?_paved_self]
  rw [runOn_ensure, hcreate, hplace, paved_concat]

/-- The directory of a clean path is created with its way, unless a file is on that. -/
theorem runOn_createFrom_of_clean (hsound : fs.Sound) {fuel : Nat} (hp : p.Clean)
    (hnames : p.names ≠ []) (hfuel : p.names.length ≤ fuel) :
    (¬ fs.Blocked (fs.place p) ∧
      (createFrom fuel p).runOn fs = (.ok (), fs.paved (fs.place p))) ∨
    (fs.Blocked (fs.place p) ∧ ∃ e, (createFrom fuel p).runOn fs = (.error e, fs)) := by
  induction fuel generalizing p with
  | zero => exact absurd (List.length_eq_zero_iff.mp (by omega)) hnames
  | succ fuel ih =>
    by_cases hheld : fs.at? (fs.place p).dropLast = some .directory
    · exact runOn_createFrom_of_held hsound fuel hp hnames hheld
    -- There is no directory to create it in, so nothing is there either.
    have hmissing := hsound.at?_eq_none hheld
    have hblocked := blocked_iff_of_at?_eq_none (place_ne_nil fs hnames) hmissing
    have hslot := slot_of_clean hsound hp hnames
    rw [if_neg hheld] at hslot
    rw [runOn_createFrom_succ fuel (isEmpty_of_names hnames), runOn_create, hslot, hblocked]
    by_cases hway : fs.Blocked (fs.place p).dropLast
    · right
      have hnotDir : fs.isDirectory p = false := by
        rw [← Bool.not_eq_true, isDirectory_of_clean hsound hp hnames, hmissing]
        simp
      exact ⟨hway, .notADirectory, by simp [hway, hnotDir]⟩
    · left
      -- The parent is created first.  It is not where paths start, for that is there.
      obtain ⟨q, hparent⟩ := Path.exists_parent? hnames
      have hq : fs.place q = (fs.place p).dropLast := place_of_parent? hparent hnames
      have hqNames : q.names ≠ [] := by
        intro hnil
        rw [place, hnil, List.append_nil] at hq
        exact hheld (hq ▸ hsound.start)
      have hqFuel : q.names.length ≤ fuel := by
        rw [Path.names_of_parent? hparent, List.length_dropLast]
        omega
      rw [← hq] at hway
      have hrun := (ih (hp.of_parent? hparent) hqNames hqFuel).resolve_right fun h => hway h.1
      rw [hq] at hrun hway
      refine ⟨hway, ?_⟩
      simp only [if_neg hway, if_true, hparent, runOn_bind, hrun.2]
      exact runOn_ensure_of_paved hsound hp hnames hmissing

/-- The directory for a file is created with its way, unless a file is on that. -/
theorem runOn_holder_of_clean (hsound : fs.Sound) (hp : p.Clean) (hnames : p.names ≠ []) :
    (¬ fs.Blocked (fs.place p).dropLast ∧
      (p.holder?.forM createAll).runOn fs = (.ok (), fs.paved (fs.place p).dropLast)) ∨
    (fs.Blocked (fs.place p).dropLast ∧ p.holder? = some p.directory ∧
      ∃ e, (p.holder?.forM createAll).runOn fs = (.error e, fs)) := by
  obtain ⟨q, hparent⟩ := Path.exists_parent? hnames
  have hq : fs.place q = (fs.place p).dropLast := place_of_parent? hparent hnames
  have hclean : q.Clean := hp.of_parent? hparent
  cases hholder : p.holder? with
  | none =>
    -- The parent is not written, so the file lies where paths start.
    left
    have hempty : q.isEmpty = true := by
      rw [Path.holder?, hparent, Option.filter_some] at hholder
      cases hempty : q.isEmpty with
      | true => rfl
      | false => simp [hempty] at hholder
    have hstart : fs.place q = fs.start := by
      rw [place, Path.names_of_isEmpty hempty, List.append_nil]
    rw [← hq, hstart, paved_of_directory hsound hsound.start]
    exact ⟨hsound.not_blocked hsound.start, rfl⟩
  | some directory =>
    obtain rfl : q = directory :=
      Option.some.inj (hparent.symm.trans (Path.parent?_of_holder? hholder))
    have hdirectory : p.directory = q := by rw [Path.directory, hholder, Option.getD_some]
    rw [hdirectory, ← hq]
    simp only [Option.forM]
    by_cases hqNames : q.names = []
    · left
      have hstart : fs.place q = fs.start := by rw [place, hqNames, List.append_nil]
      have hdir : fs.isDirectory q = true := by
        apply isDirectory_eq_true_iff.mpr
        refine ⟨fs.start, locate_eq_ok_iff.mpr ⟨Path.isEmpty_of_holder? hholder, ?_, hsound.start⟩⟩
        have hvoid : ∀ s ∈ q.segments, s = [] := hclean.eq_nil_of_names hqNames
        rw [Plain.origin_eq hclean.toPlain]
        exact follow_forall_nil hvoid hsound.start
      rw [hstart, paved_of_directory hsound hsound.start]
      exact ⟨hsound.not_blocked hsound.start, createAll_of_isDirectory hdir⟩
    · have hfuel : q.names.length ≤ q.segments.length := by
        rw [Path.names_eq]
        exact List.length_filter_le _ _
      rcases runOn_createFrom_of_clean hsound hclean hqNames hfuel with ⟨hnot, hrun⟩ | ⟨hway, hrun⟩
      · exact .inl ⟨hnot, hrun⟩
      · exact .inr ⟨hway, trivial, hrun⟩

end FileAction

end CommentSwitch
