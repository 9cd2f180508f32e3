import CommentSwitch.Proofs.Files.Following

/-!
# Parents of paths

The parent of a path is the path without its last name.  Whatever a path leads to lies
behind the directory that its parent leads to.

- `Path.parent?_cases`: the parent is empty, the root, or a part of the path
- `Path.names_of_parent?`: its names are those of the path but the last
- `FileSystem.isDirectory_of_parent?`: it leads to a directory if the path leads anywhere
- `FileSystem.Passes.of_parent?`: what it passes the path passes
-/

namespace CommentSwitch

namespace Path

variable {p q : Path}

/-! ## §1 Parts of a path -/

theorem front_append_body (p : Path) : p.front ++ p.body = p.segments := by
  unfold body front
  split <;> simp_all [dot]

theorem isVoid_of_mem_front {s : Text} (hs : s ∈ p.front) : isVoid s = true := by
  unfold front at hs
  split at hs
  · rw [List.mem_singleton.mp hs]; rfl
  · rw [List.mem_singleton.mp hs]; rfl
  · cases hs

theorem isAbsolute_iff : p.isAbsolute = true ↔ p.front = [[]] := by
  unfold isAbsolute front
  split <;> split <;> simp_all [dot]

theorem isAbsolute_congr (h : p.front = q.front) : p.isAbsolute = q.isAbsolute := by
  rw [Bool.eq_iff_iff, isAbsolute_iff, isAbsolute_iff, h]

/-- The names of a path are its segments that are not void. -/
theorem names_eq (p : Path) : p.names = p.segments.filter (!isVoid ·) := by
  have hfront : p.front.filter (!isVoid ·) = [] :=
    List.filter_eq_nil_iff.mpr fun s hs => by simp [isVoid_of_mem_front hs]
  rw [← front_append_body, List.filter_append, hfront, List.nil_append, names]

/-! ## §2 Void segments -/

/-- Some segments, and the void ones behind them. -/
theorem exists_dropVoid_append (l : List Text) :
    ∃ trail, l = dropVoid l ++ trail ∧ ∀ s ∈ trail, isVoid s = true :=
  ⟨l.rtakeWhile isVoid, List.rdropWhile_append_rtakeWhile.symm,
    fun _ hs => List.mem_rtakeWhile_imp hs⟩

theorem dropVoid_eq_nil_or_concat (l : List Text) :
    dropVoid l = [] ∨ ∃ init name, dropVoid l = init ++ [name] ∧ isVoid name = false := by
  rcases List.eq_nil_or_concat (dropVoid l) with hnil | ⟨init, name, hconcat⟩
  · exact .inl hnil
  · rw [List.concat_eq_append] at hconcat
    refine .inr ⟨init, name, hconcat, ?_⟩
    have hne : l.rdropWhile isVoid ≠ [] := by
      change dropVoid l ≠ []
      simp [hconcat]
    have hlast := List.rdropWhile_last_not isVoid l hne
    have hget : (l.rdropWhile isVoid).getLast hne = name := by
      have : l.rdropWhile isVoid = init ++ [name] := hconcat
      simp [this]
    simpa [hget] using hlast

theorem filter_of_forall_isVoid {l : List Text} (hl : ∀ s ∈ l, isVoid s = true) :
    l.filter (!isVoid ·) = [] :=
  List.filter_eq_nil_iff.mpr fun s hs => by simp [hl s hs]

theorem filter_of_forall_nil {l : List Text} (hl : ∀ s ∈ l, s = []) :
    l.filter (!isVoid ·) = [] :=
  filter_of_forall_isVoid fun s hs => by rw [hl s hs]; rfl

/-! ## §3 Parents -/

/-- A path with a name, cut before its last one. -/
theorem parent?_eq (p : Path) :
    (p.names = [] ∧ p.parent? = if p.front = [dot] then some empty else none) ∨
    ∃ d voids name trail, p.body = d ++ voids ++ name :: trail ∧ isVoid name = false ∧
      (∀ s ∈ voids, isVoid s = true) ∧ (∀ s ∈ trail, isVoid s = true) ∧
      p.parent? = some (ofParts p.front d) := by
  obtain ⟨trail, hbody, htrail⟩ := exists_dropVoid_append p.body
  rcases dropVoid_eq_nil_or_concat p.body with hnil | ⟨init, name, hconcat, hname⟩
  · left
    rw [hnil, List.nil_append] at hbody
    refine ⟨?_, by rw [parent?, hnil]⟩
    rw [names, hbody]
    exact filter_of_forall_isVoid htrail
  · right
    obtain ⟨voids, hinit, hvoids⟩ := exists_dropVoid_append init
    refine ⟨dropVoid init, voids, name, trail, ?_, hname, hvoids, htrail, ?_⟩
    · rw [hconcat] at hbody
      rw [← hinit]
      simpa using hbody
    · have hparent : p.parent? = some (ofParts p.front (dropVoid (init ++ [name]).dropLast)) := by
        rw [parent?, hconcat]
        cases init <;> rfl
      rw [hparent, List.dropLast_concat]

theorem front_ofParts {front d : List Text} (hfront : front = [] ∨ front = [[]] ∨ front = [dot]) :
    ofParts front d = empty ∧ front = [] ∧ d = [] ∨
      ofParts front d = ⟨[[], []]⟩ ∧ front = [[]] ∧ d = [] ∨
      ofParts front d = ⟨front ++ d⟩ ∧ (d = [] → front = [dot]) := by
  rcases hfront with rfl | rfl | rfl
  · cases d with
    | nil => exact .inl ⟨rfl, rfl, rfl⟩
    | cons s d => exact .inr (.inr ⟨rfl, nofun⟩)
  · cases d with
    | nil => exact .inr (.inl ⟨rfl, rfl, rfl⟩)
    | cons s d => exact .inr (.inr ⟨rfl, nofun⟩)
  · exact .inr (.inr ⟨rfl, fun _ => rfl⟩)

theorem front_cases (p : Path) : p.front = [] ∨ p.front = [[]] ∨ p.front = [dot] := by
  unfold front
  split <;> simp

/-- The parent of a path is empty, the root, or what stands in front of its last name. -/
theorem parent?_cases (h : p.parent? = some q) :
    (q = empty ∧ p.isAbsolute = false) ∨ (q = ⟨[[], []]⟩ ∧ p.isAbsolute = true) ∨
      ∃ rest, rest ≠ [] ∧ p.segments = q.segments ++ rest ∧ q.isAbsolute = p.isAbsolute := by
  rcases p.parent?_eq with ⟨-, hnone⟩ | ⟨d, voids, name, trail, hbody, -, -, -, hsome⟩
  · rw [hnone] at h
    split at h
    · next hdot =>
      cases h
      refine .inl ⟨rfl, ?_⟩
      rw [← Bool.not_eq_true, isAbsolute_iff, hdot]
      simp [dot]
    · cases h
  · obtain rfl : ofParts p.front d = q := Option.some.inj (hsome.symm.trans h)
    have hsegments : p.segments = (p.front ++ d) ++ (voids ++ name :: trail) := by
      rw [← front_append_body, hbody]
      simp
    rcases front_ofParts (d := d) p.front_cases with
      ⟨hparts, hfront, -⟩ | ⟨hparts, hfront, -⟩ | ⟨hparts, hd⟩
    · refine .inl ⟨hparts, ?_⟩
      rw [← Bool.not_eq_true, isAbsolute_iff, hfront]
      simp
    · exact .inr (.inl ⟨hparts, isAbsolute_iff.mpr hfront⟩)
    · refine .inr (.inr ⟨voids ++ name :: trail, by simp, by rw [hparts, hsegments], ?_⟩)
      -- The parent begins as the path does, and it is cut behind the place that decides.
      rw [hparts, isAbsolute, isAbsolute, hsegments]
      cases hpd : p.front ++ d with
      | nil =>
        obtain ⟨hfront, rfl⟩ := List.append_eq_nil_iff.mp hpd
        simp [hfront] at hd
      | cons s rest =>
        cases s with
        | cons c s => rfl
        | nil =>
          cases rest with
          | cons s' rest => rfl
          | nil =>
            -- A single empty segment would be followed by the name.
            exfalso
            have habsolute : p.isAbsolute = true := by
              rw [isAbsolute, hsegments, hpd]
              cases voids <;> rfl
            rw [isAbsolute_iff.mp habsolute] at hpd hd
            obtain rfl : d = [] := by simpa using hpd
            simp [dot] at hd

/-- The names of the parent are those of the path but the last. -/
theorem names_of_parent? (h : p.parent? = some q) : q.names = p.names.dropLast := by
  rcases p.parent?_eq with ⟨hnames, hnone⟩ | ⟨d, voids, name, trail, hbody, hname, hvoids, htrail, hsome⟩
  · rw [hnone] at h
    split at h
    · cases h
      rw [hnames]
      rfl
    · cases h
  · obtain rfl : ofParts p.front d = q := Option.some.inj (hsome.symm.trans h)
    have hp : p.names = d.filter (!isVoid ·) ++ [name] := by
      rw [names, hbody]
      simp [filter_of_forall_isVoid hvoids, filter_of_forall_isVoid htrail, hname]
    rw [hp, List.dropLast_concat, names_eq]
    rcases front_ofParts (d := d) p.front_cases with
      ⟨hparts, -, rfl⟩ | ⟨hparts, -, rfl⟩ | ⟨hparts, -⟩
    · rw [hparts]; rfl
    · rw [hparts]; rfl
    · rw [hparts, List.filter_append,
        filter_of_forall_isVoid fun s hs => isVoid_of_mem_front hs, List.nil_append]

theorem parent?_of_holder? (h : p.holder? = some q) : p.parent? = some q :=
  (Option.filter_eq_some_iff.mp h).1

theorem isEmpty_of_holder? (h : p.holder? = some q) : q.isEmpty = false := by
  simpa using (Option.filter_eq_some_iff.mp h).2

end Path

namespace FileSystem

variable {fs after : FileSystem} {p q : Path}

/-! ## §4 The way of a path -/

/-- A path leads through a place, or to it. -/
def Passes (fs : FileSystem) (p : Path) (l : Location) : Prop :=
  ∃ way, way <+: p.segments ∧ fs.follow (fs.origin p) way = .ok l

theorem KeepsDirectories.passes (h : KeepsDirectories fs after) {l : Location}
    (hl : fs.Passes p l) : after.Passes p l := by
  obtain ⟨way, hway, hfollow⟩ := hl
  refine ⟨way, hway, ?_⟩
  rw [h.origin_eq]
  exact h.follow_eq_ok hfollow

theorem origin_congr (h : q.isAbsolute = p.isAbsolute) : fs.origin q = fs.origin p := by
  rw [origin, origin, h]

/-- What the parent of a path passes the path passes. -/
theorem Passes.of_parent? {l : Location} (h : fs.Passes q l) (hparent : p.parent? = some q) :
    fs.Passes p l := by
  obtain ⟨way, hway, hfollow⟩ := h
  rcases Path.parent?_cases hparent with ⟨rfl, habs⟩ | ⟨rfl, habs⟩ | ⟨rest, -, hsegments, habs⟩
  · -- Nothing but the place where the path starts.
    have hnil : ∀ s ∈ way, s = [] := fun s hs => by
      simpa [Path.empty, Path.single] using hway.subset hs
    obtain rfl := follow_of_forall_nil hnil hfollow
    refine ⟨[], List.nil_prefix, ?_⟩
    rw [follow_nil, ← origin_congr (q := Path.empty) (p := p) (by rw [habs]; rfl)]
  · have hnil : ∀ s ∈ way, s = [] := fun s hs => by simpa using hway.subset hs
    obtain rfl := follow_of_forall_nil hnil hfollow
    refine ⟨[], List.nil_prefix, ?_⟩
    rw [follow_nil, ← origin_congr (q := ⟨[[], []]⟩) (p := p) (by rw [habs]; rfl)]
  · refine ⟨way, hway.trans ⟨rest, hsegments.symm⟩, ?_⟩
    rw [← origin_congr habs]
    exact hfollow

/-- The parent of a path that leads to something leads to a directory. -/
theorem isDirectory_of_parent? {x : Location × Entry} (h : fs.locate p = .ok x)
    (hparent : p.parent? = some q) (hq : q.isEmpty = false) : fs.isDirectory q = true := by
  obtain ⟨-, hfollow, -⟩ := locate_eq_ok_iff.mp h
  rw [isDirectory_eq_true_iff]
  rcases Path.parent?_cases hparent with ⟨rfl, -⟩ | ⟨rfl, -⟩ | ⟨rest, hrest, hsegments, habs⟩
  · cases hq
  · exact ⟨[], rfl⟩
  · rw [hsegments, ← origin_congr habs] at hfollow
    obtain ⟨mid, hmid, -⟩ := follow_append_eq_ok_iff.mp hfollow
    exact ⟨mid, locate_eq_ok_iff.mpr ⟨hq, hmid, at?_of_follow_append hfollow hrest hmid⟩⟩

/-! ## §5 Paths that are written alike -/

/-- In front of a directory void segments make no difference. -/
theorem follow_filter_void (l : Location) (segments : List Text) :
    fs.follow l (segments ++ [[]]) =
      fs.follow l (segments.filter (!Path.isVoid ·) ++ [[]]) := by
  induction segments generalizing l with
  | nil => rfl
  | cons s rest ih =>
    rw [List.cons_append, follow_cons]
    cases hvoid : Path.isVoid s with
    | false =>
      rw [List.filter_cons_of_pos (by simp [hvoid]), List.cons_append, follow_cons, ih]
    | true =>
      rw [List.filter_cons_of_neg (by simp [hvoid]), ← ih, next_of_isVoid hvoid]
      -- The segments that follow ask for the same directory.
      obtain ⟨s', rest', hrest⟩ := List.exists_cons_of_ne_nil
        (List.append_ne_nil_of_right_ne_nil rest (List.cons_ne_nil [] []))
      rw [hrest, follow_cons]
      cases fs.at? l with
      | none => rfl
      | some e => cases e <;> rfl

/-- The parent of a path that is written like one that has a slot is a directory. -/
theorem isDirectory_of_isSame {r : Path} {l : Location} {slashed : Bool}
    (hsame : p.isSame r = true) (hslot : fs.slot p = .ok (.named l slashed))
    (hparent : r.parent? = some q)
    (hq : q.isEmpty = false) : fs.isDirectory q = true := by
  obtain ⟨hfront, hnames⟩ : p.front = r.front ∧ p.names = r.names := by
    simpa [Path.isSame] using hsame
  obtain ⟨way, name, trail, mid, hsegments, hname, htrail, hway, hmid, -, -⟩ :=
    slot_eq_named_iff.mp hslot
  have hfollow : fs.follow (fs.origin p) (way ++ [[]]) = .ok mid :=
    follow_concat_nil_eq_ok_iff.mpr ⟨hway, hmid⟩
  have hqNames : q.segments.filter (!Path.isVoid ·) = way.filter (!Path.isVoid ·) := by
    rw [← Path.names_eq, Path.names_of_parent? hparent, ← hnames, Path.names_eq, hsegments]
    simp [hname.1, Path.filter_of_forall_nil htrail]
  have horigin : fs.origin q = fs.origin p := by
    refine (origin_congr ?_).trans (origin_congr (Path.isAbsolute_congr hfront.symm))
    rcases Path.parent?_cases hparent with ⟨rfl, habs⟩ | ⟨rfl, habs⟩ | ⟨-, -, -, habs⟩
    · rw [habs]; rfl
    · rw [habs]; rfl
    · exact habs
  rw [follow_filter_void, ← hqNames, ← follow_filter_void, ← horigin] at hfollow
  obtain ⟨hfollow, -⟩ := follow_concat_nil_eq_ok_iff.mp hfollow
  exact isDirectory_eq_true_iff.mpr ⟨mid, locate_eq_ok_iff.mpr ⟨hq, hfollow, hmid⟩⟩

theorem isDirectory_of_slot {l : Location} {slashed : Bool}
    (hslot : fs.slot p = .ok (.named l slashed)) (hparent : p.parent? = some q)
    (hq : q.isEmpty = false) : fs.isDirectory q = true :=
  isDirectory_of_isSame (by simp [Path.isSame]) hslot hparent hq

end FileSystem

end CommentSwitch
