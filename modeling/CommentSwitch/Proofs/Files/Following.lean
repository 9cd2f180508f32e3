import CommentSwitch.Files.FileSystem
import Mathlib.Data.List.DropRight

/-!
# Following paths

Where paths lead, and how that depends on the file system: a path is followed through
directories, so it leads to the same place as long as these stay.

- `FileSystem.at?_put`, `FileSystem.at?_remove`: what is at a place after a change
- `FileSystem.follow_concat_eq_ok_iff`: the last segment of a path that is followed
- `FileSystem.KeepsDirectories.follow_eq_ok`: directories that stay keep paths alive
- `FileSystem.slot_eq_named_iff`, `FileSystem.slot_of_locate`: where a file is to be put
- `FileSystem.Sound`: everything lies in a directory, and paths start from one
- `FileSystem.Sound.slot_of_locate_file`: a file is found where it is to be put
-/

namespace CommentSwitch

/-! ## §1 Places -/

namespace Dictionary

variable {κ β : Type} [LT κ] [DecidableEq κ]

/-- A look-up in the entries whose keys pass a test. -/
theorem get?_filter_key (d : Dictionary κ β) (p : κ → Bool) (k : κ) :
    (d.filter fun key _ => p key).get? k = if p k then d.get? k else none := by
  obtain ⟨l, hl⟩ := d
  change (l.filter fun e => p e.1).lookup k = if p k then l.lookup k else none
  clear hl
  induction l with
  | nil => simp
  | cons e rest ih =>
    obtain ⟨a, v⟩ := e
    by_cases ha : k = a
    · subst ha
      cases hp : p k with
      | true => simp [hp]
      | false =>
        rw [hp] at ih
        simpa [hp] using ih
    · have hbeq : (k == a) = false := beq_eq_false_iff_ne.mpr ha
      by_cases hp : p a <;> simp [List.lookup_cons, hp, hbeq, ih]

end Dictionary

namespace FileSystem

variable {fs after : FileSystem}

@[simp] theorem at?_nil (fs : FileSystem) : fs.at? [] = some .directory := rfl

theorem at?_of_ne_nil {l : Location} (hl : l ≠ []) : fs.at? l = fs.entries.get? l := by
  simp [at?, hl]

@[simp] theorem start_put (fs : FileSystem) (l : Location) (e : Entry) :
    (fs.put l e).start = fs.start := rfl

@[simp] theorem start_remove (fs : FileSystem) (l : Location) :
    (fs.remove l).start = fs.start := rfl

theorem at?_put {l : Location} (hl : l ≠ []) (e : Entry) (q : Location) :
    (fs.put l e).at? q = if q = l then some e else fs.at? q := by
  by_cases hq : q = []
  · subst hq
    simp [hl.symm]
  · rw [at?_of_ne_nil hq, at?_of_ne_nil hq]
    exact Dictionary.get?_insert fs.entries l e q

theorem at?_put_self {l : Location} (hl : l ≠ []) (e : Entry) :
    (fs.put l e).at? l = some e := by
  rw [at?_put hl, if_pos rfl]

theorem at?_put_of_ne {l q : Location} (hl : l ≠ []) (e : Entry) (hq : q ≠ l) :
    (fs.put l e).at? q = fs.at? q := by
  rw [at?_put hl, if_neg hq]

/-- Nothing is left at and beneath a place that is removed. -/
theorem at?_remove {l : Location} (hl : l ≠ []) (q : Location) :
    (fs.remove l).at? q = if l <+: q then none else fs.at? q := by
  by_cases hq : q = []
  · subst hq
    simp [hl]
  · rw [at?_of_ne_nil hq, at?_of_ne_nil hq]
    have hget := Dictionary.get?_filter_key fs.entries (fun k => !l.isPrefixOf k) q
    refine hget.trans ?_
    cases hbeneath : l.isPrefixOf q with
    | true => simp [List.isPrefixOf_iff_prefix.mp hbeneath]
    | false => simp [← List.isPrefixOf_iff_prefix, hbeneath]

/-! ## §2 Following segments -/

/-- The place behind one more segment. -/
def next (l : Location) (s : Text) : Location :=
  if Path.isVoid s then l else if s = Path.dots then l.dropLast else l ++ [s]

@[simp] theorem next_nil (l : Location) : next l [] = l := rfl

theorem next_of_isVoid {s : Text} (hs : Path.isVoid s = true) (l : Location) : next l s = l :=
  if_pos hs

/-- A segment that names an entry of a directory. -/
def IsName (s : Text) : Prop := Path.isVoid s = false ∧ s ≠ Path.dots

instance (s : Text) : Decidable (IsName s) := inferInstanceAs (Decidable (_ ∧ _))

theorem isName_iff {s : Text} : IsName s ↔ s ≠ [] ∧ ¬ (s = Path.dot ∨ s = Path.dots) := by
  simp [IsName, Path.isVoid, and_assoc]

theorem next_of_isName {s : Text} (hs : IsName s) (l : Location) : next l s = l ++ [s] := by
  simp [next, hs.1, hs.2]

@[simp] theorem follow_nil (l : Location) : fs.follow l [] = .ok l := rfl

theorem follow_cons (l : Location) (s : Text) (rest : List Text) :
    fs.follow l (s :: rest) =
      match fs.at? l with
      | none => .error .notFound
      | some (.file _) => .error .notADirectory
      | some .directory => fs.follow (next l s) rest := by
  rw [follow, next]
  cases fs.at? l with
  | none => rfl
  | some e =>
    cases e with
    | file content => rfl
    | directory =>
      simp only
      split
      · rfl
      · split <;> rfl

theorem follow_cons_eq_ok_iff {l m : Location} {s : Text} {rest : List Text} :
    fs.follow l (s :: rest) = .ok m ↔
      fs.at? l = some .directory ∧ fs.follow (next l s) rest = .ok m := by
  rw [follow_cons]
  cases fs.at? l with
  | none => simp
  | some e => cases e <;> simp

theorem follow_append_eq_ok_iff {l m : Location} {way rest : List Text} :
    fs.follow l (way ++ rest) = .ok m ↔
      ∃ mid, fs.follow l way = .ok mid ∧ fs.follow mid rest = .ok m := by
  induction way generalizing l with
  | nil => simp
  | cons s way ih =>
    rw [List.cons_append, follow_cons_eq_ok_iff, ih]
    simp only [follow_cons_eq_ok_iff, and_assoc, exists_and_left]

theorem follow_concat_eq_ok_iff {l m : Location} {way : List Text} {s : Text} :
    fs.follow l (way ++ [s]) = .ok m ↔
      ∃ mid, fs.follow l way = .ok mid ∧ fs.at? mid = some .directory ∧ m = next mid s := by
  simp only [follow_append_eq_ok_iff, follow_cons_eq_ok_iff, follow_nil, Except.ok.injEq,
    eq_comm (a := m)]

/-- An empty segment at the end makes sure that a directory is there. -/
theorem follow_concat_nil_eq_ok_iff {l m : Location} {way : List Text} :
    fs.follow l (way ++ [[]]) = .ok m ↔
      fs.follow l way = .ok m ∧ fs.at? m = some .directory := by
  rw [follow_concat_eq_ok_iff]
  constructor
  · rintro ⟨mid, hway, hmid, rfl⟩
    exact ⟨hway, hmid⟩
  · rintro ⟨hway, hm⟩
    exact ⟨m, hway, hm, rfl⟩

/-- In front of further segments a path leads to a directory. -/
theorem at?_of_follow_append {l mid m : Location} {way rest : List Text}
    (h : fs.follow l (way ++ rest) = .ok m) (hrest : rest ≠ [])
    (hway : fs.follow l way = .ok mid) : fs.at? mid = some .directory := by
  obtain ⟨mid', hway', hrest'⟩ := follow_append_eq_ok_iff.mp h
  obtain rfl : mid = mid' := Except.ok.inj (hway.symm.trans hway')
  obtain ⟨s, rest, rfl⟩ := List.exists_cons_of_ne_nil hrest
  exact (follow_cons_eq_ok_iff.mp hrest').1

/-- Segments that are empty lead nowhere else. -/
theorem follow_of_forall_nil {l m : Location} {trail : List Text} (htrail : ∀ s ∈ trail, s = [])
    (h : fs.follow l trail = .ok m) : m = l := by
  induction trail with
  | nil => exact (Except.ok.inj h).symm
  | cons s trail ih =>
    obtain rfl := htrail s List.mem_cons_self
    obtain ⟨-, hrest⟩ := follow_cons_eq_ok_iff.mp h
    exact ih (fun s hs => htrail s (List.mem_cons_of_mem _ hs)) hrest

theorem follow_forall_nil {l : Location} {trail : List Text} (htrail : ∀ s ∈ trail, s = [])
    (hl : fs.at? l = some .directory) : fs.follow l trail = .ok l := by
  induction trail with
  | nil => rfl
  | cons s trail ih =>
    obtain rfl := htrail s List.mem_cons_self
    exact follow_cons_eq_ok_iff.mpr ⟨hl, ih fun s hs => htrail s (List.mem_cons_of_mem _ hs)⟩

/-! ## §3 Directories that stay -/

/-- Every directory stays one. -/
structure KeepsDirectories (fs after : FileSystem) : Prop where
  start_eq : after.start = fs.start
  at?_eq : ∀ l, fs.at? l = some .directory → after.at? l = some .directory

theorem KeepsDirectories.refl (fs : FileSystem) : KeepsDirectories fs fs :=
  ⟨rfl, fun _ h => h⟩

theorem KeepsDirectories.trans {mid : FileSystem} (h : KeepsDirectories fs mid)
    (h' : KeepsDirectories mid after) : KeepsDirectories fs after :=
  ⟨h'.start_eq.trans h.start_eq, fun l hl => h'.at?_eq l (h.at?_eq l hl)⟩

theorem keepsDirectories_put {l : Location} (hl : l ≠ []) {e : Entry}
    (hput : fs.at? l = some .directory → e = .directory) : KeepsDirectories fs (fs.put l e) := by
  refine ⟨rfl, fun q hq => ?_⟩
  rw [at?_put hl]
  split
  · next heq =>
    subst heq
    rw [hput hq]
  · exact hq

theorem KeepsDirectories.origin_eq (h : KeepsDirectories fs after) (p : Path) :
    after.origin p = fs.origin p := by
  rw [origin, origin, h.start_eq]

theorem KeepsDirectories.follow_eq_ok (h : KeepsDirectories fs after) {l m : Location}
    {segments : List Text} (hfollow : fs.follow l segments = .ok m) :
    after.follow l segments = .ok m := by
  induction segments generalizing l with
  | nil => exact hfollow
  | cons s rest ih =>
    obtain ⟨hl, hrest⟩ := follow_cons_eq_ok_iff.mp hfollow
    exact follow_cons_eq_ok_iff.mpr ⟨h.at?_eq l hl, ih hrest⟩

theorem locate_eq_ok_iff {p : Path} {l : Location} {e : Entry} :
    fs.locate p = .ok (l, e) ↔
      p.isEmpty = false ∧ fs.follow (fs.origin p) p.segments = .ok l ∧ fs.at? l = some e := by
  rw [locate]
  cases hempty : p.isEmpty with
  | true => simp
  | false =>
    cases hfollow : fs.follow (fs.origin p) p.segments with
    | error f => simp [bind, Except.bind]
    | ok m =>
      cases hm : fs.at? m with
      | none =>
        simp only [bind, Except.bind, hm, Bool.false_eq_true, if_false, reduceCtorEq, true_and,
          false_iff, not_and, Except.ok.injEq]
        rintro rfl
        simp [hm]
      | some e' =>
        simp only [bind, Except.bind, hm, Bool.false_eq_true, if_false, true_and,
          Except.ok.injEq, pure, Except.pure, Prod.mk.injEq]
        constructor
        · rintro ⟨rfl, rfl⟩
          exact ⟨rfl, hm⟩
        · rintro ⟨rfl, he⟩
          exact ⟨rfl, Option.some.inj (hm.symm.trans he)⟩

theorem isDirectory_eq_true_iff {p : Path} :
    fs.isDirectory p = true ↔ ∃ l, fs.locate p = .ok (l, .directory) := by
  unfold isDirectory
  split
  · next l h => simp [h]
  · next hnot =>
    simp only [Bool.false_eq_true, false_iff, not_exists]
    exact fun l h => hnot l h

/-- A path that leads to a directory leads to it as long as directories stay. -/
theorem KeepsDirectories.isDirectory (h : KeepsDirectories fs after) {p : Path}
    (hp : fs.isDirectory p = true) : after.isDirectory p = true := by
  obtain ⟨l, hl⟩ := isDirectory_eq_true_iff.mp hp
  obtain ⟨hempty, hfollow, hat⟩ := locate_eq_ok_iff.mp hl
  refine isDirectory_eq_true_iff.mpr ⟨l, locate_eq_ok_iff.mpr ⟨hempty, ?_, h.at?_eq l hat⟩⟩
  rw [h.origin_eq]
  exact h.follow_eq_ok hfollow

/-! ## §4 Slots -/

/-- The segments of a path are empty, or one of them is the last that is not. -/
theorem segments_cases (segments : List Text) :
    (∀ s ∈ segments, s = []) ∨
      ∃ way name trail, segments = way ++ name :: trail ∧ name ≠ [] ∧ ∀ s ∈ trail, s = [] := by
  induction segments with
  | nil => exact .inl (by simp)
  | cons s rest ih =>
    rcases ih with hnil | ⟨way, name, trail, rfl, hname, htrail⟩
    · by_cases hs : s = []
      · exact .inl (by simpa [hs] using hnil)
      · exact .inr ⟨[], s, rest, rfl, hs, hnil⟩
    · exact .inr ⟨s :: way, name, trail, rfl, hname, htrail⟩

theorem dropWhile_isEmpty_of_forall_nil {trail rest : List Text} (htrail : ∀ s ∈ trail, s = []) :
    (trail ++ rest).dropWhile List.isEmpty = rest.dropWhile List.isEmpty :=
  List.dropWhile_append_of_pos fun s hs => by simp [htrail s hs]

variable {p : Path}

theorem slot_of_forall_nil (hp : ∀ s ∈ p.segments, s = []) :
    fs.slot p = if p.isEmpty then .error .notFound else .ok .root := by
  have htrimmed : p.segments.reverse.dropWhile List.isEmpty = [] := by
    have hdrop : (p.segments.reverse ++ []).dropWhile List.isEmpty = [] :=
      dropWhile_isEmpty_of_forall_nil fun s hs => hp s (List.mem_reverse.mp hs)
    simpa using hdrop
  rw [slot, htrimmed]

theorem slot_of_segments {way trail : List Text} {name : Text}
    (hsegments : p.segments = way ++ name :: trail) (hname : name ≠ [])
    (htrail : ∀ s ∈ trail, s = []) :
    fs.slot p = (fs.follow (fs.origin p) (way ++ [[]])).map fun l =>
      if name = Path.dot ∨ name = Path.dots then .dots
      else .named (l ++ [name]) (!trail.isEmpty) := by
  have htrimmed : p.segments.reverse.dropWhile List.isEmpty = name :: way.reverse := by
    rw [hsegments, List.reverse_append, List.reverse_cons, List.append_assoc,
      dropWhile_isEmpty_of_forall_nil fun s hs => htrail s (List.mem_reverse.mp hs)]
    simp [hname]
  have hslashed : decide ((name :: way.reverse).length < p.segments.length) = !trail.isEmpty := by
    rw [hsegments]
    cases trail <;> simp
  rw [slot, htrimmed]
  simp only [List.reverse_reverse, hslashed]
  cases fs.follow (fs.origin p) (way ++ [[]]) with
  | error f => rfl
  | ok l =>
    simp only [bind, Except.bind, Except.map, pure, Except.pure]
    split <;> rfl

/-- A slot that has a name: the name stands in a directory, and nothing but slashes follows
it. -/
theorem slot_eq_named_iff {l : Location} {slashed : Bool} :
    fs.slot p = .ok (.named l slashed) ↔
      ∃ way name trail mid, p.segments = way ++ name :: trail ∧ IsName name ∧
        (∀ s ∈ trail, s = []) ∧ fs.follow (fs.origin p) way = .ok mid ∧
        fs.at? mid = some .directory ∧ l = mid ++ [name] ∧ slashed = !trail.isEmpty := by
  constructor
  · intro h
    rcases segments_cases p.segments with hnil | ⟨way, name, trail, hsegments, hname, htrail⟩
    · rw [slot_of_forall_nil hnil] at h
      split at h <;> cases h
    · rw [slot_of_segments hsegments hname htrail] at h
      cases hfollow : fs.follow (fs.origin p) (way ++ [[]]) with
      | error f => rw [hfollow] at h; cases h
      | ok mid =>
        rw [hfollow] at h
        obtain ⟨hway, hmid⟩ := follow_concat_nil_eq_ok_iff.mp hfollow
        have hproper : ¬ (name = Path.dot ∨ name = Path.dots) := by
          intro hdots
          simp [Except.map, hdots] at h
        simp only [Except.map, if_neg hproper, Except.ok.injEq, Slot.named.injEq] at h
        exact ⟨way, name, trail, mid, hsegments, isName_iff.mpr ⟨hname, hproper⟩, htrail,
          hway, hmid, h.1.symm, h.2.symm⟩
  · rintro ⟨way, name, trail, mid, hsegments, hname, htrail, hway, hmid, rfl, rfl⟩
    obtain ⟨hne, hproper⟩ := isName_iff.mp hname
    rw [slot_of_segments hsegments hne htrail, follow_concat_nil_eq_ok_iff.mpr ⟨hway, hmid⟩]
    simp [Except.map, hproper]

theorem ne_nil_of_slot {l : Location} {slashed : Bool}
    (h : fs.slot p = .ok (.named l slashed)) : l ≠ [] := by
  obtain ⟨way, name, trail, mid, -, -, -, -, -, rfl, -⟩ := slot_eq_named_iff.mp h
  simp

theorem isEmpty_of_slot {l : Location} {slashed : Bool}
    (h : fs.slot p = .ok (.named l slashed)) : p.isEmpty = false := by
  obtain ⟨way, name, trail, mid, hsegments, hname, -⟩ := slot_eq_named_iff.mp h
  rw [Path.isEmpty, hsegments]
  cases way <;> simp [(isName_iff.mp hname).1]

/-- The way to a slot. -/
theorem follow_slot {l : Location} {slashed : Bool} (h : fs.slot p = .ok (.named l slashed)) :
    ∃ way trail, p.segments = way ++ trail ∧ (∀ s ∈ trail, s = []) ∧
      slashed = !trail.isEmpty ∧ fs.follow (fs.origin p) way = .ok l := by
  obtain ⟨way, name, trail, mid, hsegments, hname, htrail, hway, hmid, rfl, hslashed⟩ :=
    slot_eq_named_iff.mp h
  refine ⟨way ++ [name], trail, by simp [hsegments], htrail, hslashed, ?_⟩
  exact follow_concat_eq_ok_iff.mpr ⟨mid, hway, hmid, (next_of_isName hname mid).symm⟩

/-- A slot stays where it is as long as directories stay. -/
theorem KeepsDirectories.slot_eq_named (h : KeepsDirectories fs after) {l : Location}
    {slashed : Bool} (hslot : fs.slot p = .ok (.named l slashed)) :
    after.slot p = .ok (.named l slashed) := by
  obtain ⟨way, name, trail, mid, hsegments, hname, htrail, hway, hmid, hl, hslashed⟩ :=
    slot_eq_named_iff.mp hslot
  refine slot_eq_named_iff.mpr ⟨way, name, trail, mid, hsegments, hname, htrail, ?_,
    h.at?_eq mid hmid, hl, hslashed⟩
  rw [h.origin_eq]
  exact h.follow_eq_ok hway

/-- What is in the slot of a path is what the path leads to. -/
theorem locate_of_slot {l : Location} {e : Entry} (h : fs.slot p = .ok (.named l false))
    (he : fs.at? l = some e) : fs.locate p = .ok (l, e) := by
  obtain ⟨way, trail, hsegments, -, hslashed, hway⟩ := follow_slot h
  obtain rfl : trail = [] := by simpa using hslashed
  rw [List.append_nil] at hsegments
  exact locate_eq_ok_iff.mpr ⟨isEmpty_of_slot h, hsegments ▸ hway, he⟩

/-- A slash may follow the name of a directory. -/
theorem locate_of_slot_directory {l : Location} {slashed : Bool}
    (h : fs.slot p = .ok (.named l slashed)) (hl : fs.at? l = some .directory) :
    fs.locate p = .ok (l, .directory) := by
  obtain ⟨way, trail, hsegments, htrail, -, hway⟩ := follow_slot h
  refine locate_eq_ok_iff.mpr ⟨isEmpty_of_slot h, ?_, hl⟩
  rw [hsegments]
  exact follow_append_eq_ok_iff.mpr ⟨l, hway, follow_forall_nil htrail hl⟩

/-- A path that leads to something has a slot, and a named one is where that thing is. -/
theorem slot_of_locate {l : Location} {e : Entry} (h : fs.locate p = .ok (l, e)) :
    fs.slot p = .ok .root ∨ fs.slot p = .ok .dots ∨
      ∃ slashed, fs.slot p = .ok (.named l slashed) ∧ (slashed = true → e = .directory) := by
  obtain ⟨hempty, hfollow, he⟩ := locate_eq_ok_iff.mp h
  rcases segments_cases p.segments with hnil | ⟨way, name, trail, hsegments, hname, htrail⟩
  · left
    rw [slot_of_forall_nil hnil, hempty]
    rfl
  · right
    rw [hsegments] at hfollow
    obtain ⟨mid, hway, hrest⟩ := follow_append_eq_ok_iff.mp hfollow
    obtain ⟨hmid, htrailing⟩ := follow_cons_eq_ok_iff.mp hrest
    rw [slot_of_segments hsegments hname htrail, follow_concat_nil_eq_ok_iff.mpr ⟨hway, hmid⟩]
    by_cases hproper : name = Path.dot ∨ name = Path.dots
    · left
      simp [Except.map, hproper]
    · right
      rw [next_of_isName (isName_iff.mpr ⟨hname, hproper⟩)] at htrailing
      obtain rfl := follow_of_forall_nil htrail htrailing
      refine ⟨!trail.isEmpty, by simp [Except.map, hproper], fun hslashed => ?_⟩
      -- A slash behind the name is followed only from a directory.
      have htrail' : trail ≠ [] := by simpa using hslashed
      obtain ⟨s, rest, rfl⟩ := List.exists_cons_of_ne_nil htrail'
      exact Option.some.inj (he.symm.trans (follow_cons_eq_ok_iff.mp htrailing).1)

/-! ## §5 Sound file systems -/

/-- A file system as it can be: everything lies in a directory and has a proper name, and
paths start from a directory. -/
structure Sound (fs : FileSystem) : Prop where
  start : fs.at? fs.start = some .directory
  named : ∀ l e, fs.at? l = some e → ∀ s ∈ l, IsName s
  held : ∀ l s e, fs.at? (l ++ [s]) = some e → fs.at? l = some .directory

theorem mem_entries_iff {l : Location} {e : Entry} (hl : l ≠ []) :
    fs.at? l = some e ↔ (l, e) ∈ fs.entries.entries := by
  rw [at?_of_ne_nil hl]
  exact Dictionary.get?_eq_some_iff

theorem sound_iff (fs : FileSystem) :
    fs.Sound ↔ fs.at? fs.start = some .directory ∧ ∀ x ∈ fs.entries.entries,
      (∀ s ∈ x.1, IsName s) ∧ fs.at? x.1.dropLast = some .directory := by
  constructor
  · intro h
    refine ⟨h.start, fun x hx => ?_⟩
    obtain ⟨l, e⟩ := x
    rcases List.eq_nil_or_concat l with rfl | ⟨l, s, rfl⟩
    · exact ⟨by simp, rfl⟩
    · rw [List.concat_eq_append] at hx ⊢
      have he := (mem_entries_iff (by simp)).mpr hx
      exact ⟨h.named _ _ he, by simpa using h.held l s e he⟩
  · rintro ⟨hstart, hentries⟩
    refine ⟨hstart, fun l e he => ?_, fun l s e he => ?_⟩
    · by_cases hl : l = []
      · simp [hl]
      · exact (hentries _ ((mem_entries_iff hl).mp he)).1
    · have hheld := (hentries _ ((mem_entries_iff (by simp)).mp he)).2
      rwa [List.dropLast_concat] at hheld

instance (fs : FileSystem) : Decidable fs.Sound := decidable_of_iff' _ (sound_iff fs)

/-- What lies beneath a place makes it a directory. -/
theorem Sound.at?_of_append (h : fs.Sound) {l rest : Location} {e : Entry} (hrest : rest ≠ [])
    (he : fs.at? (l ++ rest) = some e) : fs.at? l = some .directory := by
  induction rest using List.reverseRecOn generalizing e with
  | nil => exact absurd rfl hrest
  | append_singleton rest s ih =>
    rw [← List.append_assoc] at he
    have hheld := h.held _ _ _ he
    by_cases hnil : rest = []
    · rwa [hnil, List.append_nil] at hheld
    · exact ih hnil hheld

/-- A named slot can be filled, unless a directory would have to go. -/
theorem Sound.put (h : fs.Sound) {l : Location} {slashed : Bool} {e : Entry}
    (hslot : fs.slot p = .ok (.named l slashed))
    (he : fs.at? l = some .directory → e = .directory) : (fs.put l e).Sound := by
  have hne := ne_nil_of_slot hslot
  have hkeeps : KeepsDirectories fs (fs.put l e) := keepsDirectories_put hne he
  obtain ⟨way, name, trail, mid, -, hname, -, -, hmid, rfl, -⟩ := slot_eq_named_iff.mp hslot
  refine ⟨hkeeps.at?_eq _ h.start, fun q e' hq => ?_, fun q s e' hq => ?_⟩
  · rw [at?_put hne] at hq
    split at hq
    · next heq =>
      subst heq
      intro s hs
      rcases List.mem_append.mp hs with hs | hs
      · exact h.named _ _ hmid s hs
      · rw [List.mem_singleton.mp hs]
        exact hname
    · exact h.named q e' hq
  · refine hkeeps.at?_eq q ?_
    rw [at?_put hne] at hq
    split at hq
    · next heq =>
      obtain ⟨rfl, -⟩ := List.append_inj' heq rfl
      exact hmid
    · exact h.held q s e' hq

/-- Dots lead from a directory to a directory. -/
theorem Sound.at?_next_of_dots (h : fs.Sound) {mid : Location} {s : Text}
    (hs : s = Path.dot ∨ s = Path.dots) (hmid : fs.at? mid = some .directory) :
    fs.at? (next mid s) = some .directory := by
  rcases hs with rfl | rfl
  · exact hmid
  · change fs.at? mid.dropLast = some .directory
    rcases List.eq_nil_or_concat mid with rfl | ⟨mid, name, rfl⟩
    · rfl
    · rw [List.concat_eq_append] at hmid ⊢
      rw [List.dropLast_concat]
      exact h.held mid name _ hmid

/-- A path that leads to a file has a slot, which is where the file is. -/
theorem Sound.slot_of_locate_file (h : fs.Sound) {l : Location} {content : ByteArray}
    (hlocate : fs.locate p = .ok (l, .file content)) : fs.slot p = .ok (.named l false) := by
  obtain ⟨-, hfollow, hat⟩ := locate_eq_ok_iff.mp hlocate
  have hnot : fs.at? l ≠ some .directory := by simp [hat]
  rcases segments_cases p.segments with hnil | ⟨way, name, trail, hsegments, hname, htrail⟩
  · exfalso
    apply hnot
    rw [follow_of_forall_nil hnil hfollow, origin]
    split
    · rfl
    · exact h.start
  · rw [hsegments] at hfollow
    obtain ⟨mid, hway, hrest⟩ := follow_append_eq_ok_iff.mp hfollow
    obtain ⟨hmid, htrailing⟩ := follow_cons_eq_ok_iff.mp hrest
    obtain rfl := follow_of_forall_nil htrail htrailing
    have hproper : ¬ (name = Path.dot ∨ name = Path.dots) :=
      fun hdots => hnot (h.at?_next_of_dots hdots hmid)
    have hname' : IsName name := isName_iff.mpr ⟨hname, hproper⟩
    obtain rfl : trail = [] := by
      rcases trail with _ | ⟨s, trail⟩
      · rfl
      · exact absurd (follow_cons_eq_ok_iff.mp htrailing).1 hnot
    exact slot_eq_named_iff.mpr ⟨way, name, [], mid, hsegments, hname', htrail, hway, hmid,
      next_of_isName hname' mid, rfl⟩

/-- What is left when a place is removed with everything beneath it. -/
theorem Sound.remove (h : fs.Sound) {l : Location} (hl : l ≠ []) (hstart : ¬ l <+: fs.start) :
    (fs.remove l).Sound := by
  refine ⟨?_, fun q e hq => ?_, fun q s e hq => ?_⟩
  · rw [start_remove, at?_remove hl, if_neg hstart]
    exact h.start
  · rw [at?_remove hl] at hq
    split at hq
    · cases hq
    · exact h.named q e hq
  · rw [at?_remove hl] at hq ⊢
    split at hq
    · cases hq
    · next hnot =>
      rw [if_neg fun hbeneath => hnot (hbeneath.trans (List.prefix_append q [s]))]
      exact h.held q s e hq

end FileSystem

end CommentSwitch
