import CommentSwitch.Proofs.Converter.Jobs

/-!
# Sources

The files that sources contribute to a batch.  A directory contributes the files beneath it,
a file itself under its own name; of several files with the same names the one of the earliest
source is taken.

- `FileSystem.contribution?`, `FileSystem.earliest?`: what sources contribute
- `FileSystem.contributed_of_sourceFiles`: the files of a source are what it contributes
- `Job.mem_firstOfEach_iff`: the file of an earlier source wins
- `Job.ofSources_eq_ok`: the jobs of a batch are the earliest contributions
-/

namespace CommentSwitch

namespace Path

/-- Neither of two paths lies beneath the other one, and they are not the same. -/
structure Apart (p q : Path) : Prop where
  not_within : ¬ q.names <+: p.names
  not_around : ¬ p.names <+: q.names

instance (p q : Path) : Decidable (p.Apart q) :=
  decidable_of_iff (¬ q.names <+: p.names ∧ ¬ p.names <+: q.names)
    ⟨fun h => ⟨h.1, h.2⟩, fun h => ⟨h.not_within, h.not_around⟩⟩

theorem Apart.names_ne_nil {p q : Path} (h : p.Apart q) : p.names ≠ [] := by
  intro hnil
  apply h.not_around
  rw [hnil]
  exact List.nil_prefix

end Path

namespace FileSystem

variable {fs after : FileSystem} {source target : Path}

/-! ## §1 Contributions -/

/-- What a source contributes under some names: a file beneath it, or itself. -/
def contribution? (fs : FileSystem) (source : Path) (names : List Text) : Option ByteArray :=
  match fs.at? (fs.place source) with
  | some (.file content) => if source.fileName?.toList = names then some content else none
  | _ =>
    match fs.at? (fs.place source ++ names) with
    | some (.file content) => some content
    | _ => none

/-- What the earliest source contributes that has a file under these names. -/
def earliest? (fs : FileSystem) (sources : List Path) (names : List Text) : Option ByteArray :=
  sources.findSome? (fs.contribution? · names)

theorem contribution?_of_directory (h : fs.at? (fs.place source) = some .directory)
    {names : List Text} {content : ByteArray} :
    fs.contribution? source names = some content ↔
      fs.at? (fs.place source ++ names) = some (.file content) := by
  rw [contribution?, h]
  simp only
  split
  · next old hold => simp [hold]
  · next hnot =>
    simp only [reduceCtorEq, false_iff]
    exact hnot content

theorem contribution?_of_file {content old : ByteArray}
    (h : fs.at? (fs.place source) = some (.file old)) {names : List Text} :
    fs.contribution? source names = some content ↔
      source.fileName?.toList = names ∧ content = old := by
  rw [contribution?, h]
  simp only
  split
  · next hname => simp [hname, eq_comm]
  · next hname => simp [hname]

theorem not_place_prefix_of_apart (fs : FileSystem) (h : source.Apart target) (names : List Text) :
    ¬ fs.place target <+: fs.place source ++ names := by
  intro hbeneath
  rcases List.prefix_or_prefix_of_prefix hbeneath (List.prefix_append (fs.place source) names) with
    hwithin | haround
  · exact h.not_within ((List.prefix_append_right_inj fs.start).mp hwithin)
  · exact h.not_around ((List.prefix_append_right_inj fs.start).mp haround)

/-- A source contributes the same in a file system that differs only beneath the target. -/
theorem contribution?_congr (hstart : after.start = fs.start) (h : source.Apart target)
    (hat : ∀ l, ¬ fs.place target <+: l → after.at? l = fs.at? l) (names : List Text) :
    after.contribution? source names = fs.contribution? source names := by
  have hplace : after.place source = fs.place source := by rw [place, place, hstart]
  have hsource : after.at? (fs.place source) = fs.at? (fs.place source) := by
    apply hat
    simpa using not_place_prefix_of_apart fs h []
  rw [contribution?, contribution?, hplace, hsource, hat _ (not_place_prefix_of_apart fs h names)]

theorem earliest?_congr {sources : List Path} (hstart : after.start = fs.start)
    (h : ∀ s ∈ sources, s.Apart target)
    (hat : ∀ l, ¬ fs.place target <+: l → after.at? l = fs.at? l) (names : List Text) :
    after.earliest? sources names = fs.earliest? sources names := by
  induction sources with
  | nil => rfl
  | cons source sources ih =>
    obtain ⟨hsource, hsources⟩ := List.forall_mem_cons.mp h
    have hrest := ih hsources
    rw [earliest?, earliest?] at hrest
    rw [earliest?, earliest?, List.findSome?_cons, List.findSome?_cons, hrest,
      contribution?_congr hstart hsource hat]

/-! ## §2 The files of a source -/

theorem mem_filesBeneath_iff {l : Location} (hl : l ≠ []) {names : List Text} :
    names ∈ fs.filesBeneath l ↔ ∃ content, fs.at? (l ++ names) = some (.file content) := by
  rw [filesBeneath, List.mem_filterMap]
  constructor
  · rintro ⟨⟨k, e⟩, hmem, hk⟩
    cases e with
    | directory => cases hk
    | file content =>
      simp only [Option.ite_none_right_eq_some, List.isPrefixOf_iff_prefix, Option.some.injEq]
        at hk
      obtain ⟨⟨rest, rfl⟩, hnames⟩ := hk
      rw [List.drop_left] at hnames
      subst hnames
      exact ⟨content, (mem_entries_iff (by simp [hl])).mpr hmem⟩
  · rintro ⟨content, hat⟩
    refine ⟨(l ++ names, .file content), (mem_entries_iff (by simp [hl])).mp hat, ?_⟩
    simp

/-- Some files can be converted, and they are what a source contributes. -/
structure Contributed (fs : FileSystem) (source target : Path) (files : List SourceFile) :
    Prop where
  held : ∀ f ∈ files, f.Held fs target
  read : ∀ f ∈ files, ∃ content, fs.contentAt f.path = .ok content ∧
    fs.contribution? source f.names = some content
  complete : ∀ names content, fs.contribution? source names = some content →
    ∃ f ∈ files, f.names = names

theorem contributed_of_directory (hsound : fs.Sound) (hsource : source.Plain)
    (hapart : source.Apart target) (hlocate : fs.locate source = .ok (fs.place source, .directory)) :
    Contributed fs source target
      ((fs.filesBeneath (fs.place source)).map fun names => ⟨source.along names, names⟩) := by
  have hdir := (locate_eq_ok_iff.mp hlocate).2.2
  have hne : fs.place source ≠ [] := by simp [place, hapart.names_ne_nil]
  have hfound : ∀ names ∈ fs.filesBeneath (fs.place source), ∃ content,
      fs.at? (fs.place source ++ names) = some (.file content) ∧
      fs.locate (source.along names) = .ok (fs.place source ++ names, .file content) := by
    intro names hnames
    obtain ⟨content, hat⟩ := (mem_filesBeneath_iff hne).mp hnames
    exact ⟨content, hat, locate_along hsound hlocate hat⟩
  refine ⟨fun f hf => ?_, fun f hf => ?_, fun names content hcontribution => ?_⟩
  · obtain ⟨names, hnames, rfl⟩ := List.mem_map.mp hf
    obtain ⟨content, hat, hfile⟩ := hfound names hnames
    have hisName : ∀ s ∈ names, IsName s := fun s hs =>
      hsound.named _ _ hat s (List.mem_append_right _ hs)
    have hnonempty : names ≠ [] := by
      rintro rfl
      rw [List.append_nil, hdir] at hat
      cases hat
    have hplain : (source.along names).Plain :=
      hsource.along fun hdots => (hisName _ hdots).2 rfl
    refine ⟨hplain, ⟨_, content, hfile, not_place_prefix_of_apart fs hapart names⟩,
      ⟨hnonempty, hisName⟩, ?_⟩
    rw [hplain.fileName?_eq, Path.names_along source fun s hs => (hisName s hs).1,
      List.getLast?_append_of_ne_nil _ hnonempty]
  · obtain ⟨names, hnames, rfl⟩ := List.mem_map.mp hf
    obtain ⟨content, hat, hfile⟩ := hfound names hnames
    exact ⟨content, contentAt_eq_ok_iff.mpr ⟨_, hfile⟩,
      (contribution?_of_directory hdir).mpr hat⟩
  · have hat := (contribution?_of_directory hdir).mp hcontribution
    have hnames := (mem_filesBeneath_iff hne).mpr ⟨content, hat⟩
    exact ⟨⟨source.along names, names⟩, List.mem_map.mpr ⟨names, hnames, rfl⟩, rfl⟩

theorem contributed_of_file (hsource : source.Plain) (hapart : source.Apart target)
    {content : ByteArray} {name : Text} (hname : source.fileName? = some name)
    (hlocate : fs.locate source = .ok (fs.place source, .file content)) :
    Contributed fs source target [⟨source, [name]⟩] := by
  have hat := (locate_eq_ok_iff.mp hlocate).2.2
  have hlast : source.names.getLast? = some name := by rw [← hsource.fileName?_eq, hname]
  have hmem : name ∈ source.names := List.mem_of_getLast? hlast
  have hisName : IsName name := by
    refine ⟨Path.isVoid_of_mem_names hmem, ?_⟩
    rintro rfl
    exact hsource.straight (Path.mem_segments_of_mem_names hmem)
  refine ⟨fun f hf => ?_, fun f hf => ?_, fun names old hcontribution => ?_⟩
  · obtain rfl := List.mem_singleton.mp hf
    refine ⟨hsource, ⟨_, content, hlocate, ?_⟩, ⟨by simp, by simpa using hisName⟩, hname⟩
    simpa using not_place_prefix_of_apart fs hapart []
  · obtain rfl := List.mem_singleton.mp hf
    exact ⟨content, contentAt_eq_ok_iff.mpr ⟨_, hlocate⟩,
      (contribution?_of_file hat).mpr ⟨by simp [hname], rfl⟩⟩
  · obtain ⟨hnames, -⟩ := (contribution?_of_file hat).mp hcontribution
    exact ⟨_, List.mem_singleton_self _, by simpa [hname] using hnames⟩

theorem contributed_of_sourceFiles (hsound : fs.Sound) (hsource : source.Plain)
    (hapart : source.Apart target) {files : List SourceFile}
    (h : fs.sourceFiles source = .ok files) : Contributed fs source target files := by
  rw [sourceFiles] at h
  split at h
  · cases h
  · next l hlocate =>
    obtain rfl := eq_place_of_locate hsource hlocate
    cases h
    exact contributed_of_directory hsound hsource hapart hlocate
  · next l content hlocate =>
    obtain rfl := eq_place_of_locate hsource hlocate
    cases hname : source.fileName? with
    | none =>
      rw [hname] at h
      cases h
    | some name =>
      rw [hname] at h
      cases h
      exact contributed_of_file hsource hapart hname hlocate

end FileSystem

/-! ## §3 The earliest files -/

namespace Job

open FileSystem

variable {fs : FileSystem} {sources : List Path} {target : Path}

/-- A file is kept if it is the first with its names. -/
theorem mem_firstOfEach_iff {seen : List (List Text)} {files : List SourceFile} {g : SourceFile} :
    g ∈ firstOfEach seen files ↔
      g.names ∉ seen ∧ files.find? (fun f => f.names = g.names) = some g := by
  induction files generalizing seen with
  | nil => simp [firstOfEach]
  | cons f files ih =>
    rw [firstOfEach, List.find?_cons]
    by_cases hnames : f.names = g.names
    · by_cases hseen : f.names ∈ seen
      · simp only [hseen, if_true, ih, ← hnames, not_true_eq_false, false_and]
      · rw [if_neg hseen, List.mem_cons, ih]
        simp [hnames, hnames ▸ hseen, eq_comm]
    · by_cases hseen : f.names ∈ seen
      · rw [if_pos hseen, ih]
        simp [hnames]
      · rw [if_neg hseen, List.mem_cons, ih]
        have hne : g ≠ f := fun heq => hnames (heq ▸ rfl)
        simp [hnames, hne, Ne.symm hnames]

theorem nodup_firstOfEach (seen : List (List Text)) (files : List SourceFile) :
    ((firstOfEach seen files).map (·.names)).Nodup := by
  induction files generalizing seen with
  | nil => simp [firstOfEach]
  | cons f files ih =>
    rw [firstOfEach]
    split
    · exact ih seen
    · rw [List.map_cons, List.nodup_cons]
      refine ⟨fun hmem => ?_, ih _⟩
      obtain ⟨g, hg, hnames⟩ := List.mem_map.mp hmem
      exact (mem_firstOfEach_iff.mp hg).1 (hnames ▸ List.mem_cons_self)

theorem forall₂_of_mapM {α β ε : Type} {f : α → Except ε β} {xs : List α} {ys : List β}
    (h : xs.mapM f = .ok ys) : List.Forall₂ (fun x y => f x = .ok y) xs ys := by
  induction xs generalizing ys with
  | nil =>
    cases h
    exact .nil
  | cons x xs ih =>
    rw [List.mapM_cons] at h
    cases hx : f x with
    | error e => rw [hx] at h; cases h
    | ok y =>
      rw [hx] at h
      cases hxs : xs.mapM f with
      | error e => rw [hxs] at h; cases h
      | ok rest =>
        rw [hxs] at h
        cases h
        exact .cons hx (ih hxs)

/-- The first file with some names, in all sources, is what the earliest source contributes. -/
theorem find?_flatten {lists : List (List SourceFile)} (hsound : fs.Sound)
    (hsources : ∀ s ∈ sources, s.Plain ∧ s.Apart target)
    (h : List.Forall₂ (fun s files => fs.sourceFiles s = .ok files) sources lists)
    (names : List Text) :
    Option.Rel (fun f content => f.Held fs target ∧ fs.contentAt f.path = .ok content)
      (lists.flatten.find? fun f => f.names = names) (fs.earliest? sources names) := by
  induction h with
  | nil => exact .none
  | @cons source files sources lists hfiles hrest ih =>
    obtain ⟨⟨hplain, hapart⟩, hsources⟩ := List.forall_mem_cons.mp hsources
    have hcontributed := contributed_of_sourceFiles hsound hplain hapart hfiles
    rw [List.flatten_cons, List.find?_append, earliest?, List.findSome?_cons]
    cases hfind : files.find? fun f => f.names = names with
    | some f =>
      have hnames : f.names = names := by simpa using List.find?_some hfind
      have hmem := List.mem_of_find?_eq_some hfind
      obtain ⟨content, hcontent, hcontribution⟩ := hcontributed.read f hmem
      rw [hnames] at hcontribution
      rw [hcontribution]
      exact .some ⟨hcontributed.held f hmem, hcontent⟩
    | none =>
      have hcontribution : fs.contribution? source names = none := by
        refine Option.eq_none_iff_forall_ne_some.mpr fun content hcontent => ?_
        obtain ⟨f, hf, hnames⟩ := hcontributed.complete names content hcontent
        exact absurd hnames (by simpa using List.find?_eq_none.mp hfind f hf)
      rw [hcontribution]
      exact ih hsources

/-- The jobs of a batch are the earliest contributions of its sources, one for each relative
path. -/
theorem ofSources_eq_ok (hsound : fs.Sound) (hsources : ∀ s ∈ sources, s.Plain ∧ s.Apart target)
    {jobs : List Job} (h : ofSources fs sources target = .ok jobs) :
    ∃ files : List SourceFile, jobs = files.map (fun f => ⟨f.path, target.along f.names⟩) ∧
      (files.map (·.names)).Nodup ∧
      (∀ f ∈ files, f.Held fs target ∧ ∃ content, fs.contentAt f.path = .ok content ∧
        fs.earliest? sources f.names = some content) ∧
      ∀ names content, fs.earliest? sources names = some content →
        ∃ f ∈ files, f.names = names := by
  rw [ofSources] at h
  cases hlists : sources.mapM fs.sourceFiles with
  | error e => rw [hlists] at h; cases h
  | ok lists =>
    rw [hlists] at h
    cases h
    have hrel := find?_flatten hsound hsources (forall₂_of_mapM hlists)
    refine ⟨firstOfEach [] lists.flatten, rfl, nodup_firstOfEach _ _, fun f hf => ?_,
      fun names content hcontent => ?_⟩
    · obtain ⟨-, hfind⟩ := mem_firstOfEach_iff.mp hf
      have hf' := hrel f.names
      rw [hfind] at hf'
      cases hearliest : fs.earliest? sources f.names with
      | none => rw [hearliest] at hf'; cases hf'
      | some content =>
        rw [hearliest] at hf'
        cases hf' with
        | some hheld => exact ⟨hheld.1, content, hheld.2, rfl⟩
    · have hf' := hrel names
      rw [hcontent] at hf'
      cases hfind : lists.flatten.find? fun f => f.names = names with
      | none => rw [hfind] at hf'; cases hf'
      | some f =>
        have hnames : f.names = names := by simpa using List.find?_some hfind
        refine ⟨f, mem_firstOfEach_iff.mpr ⟨by simp, ?_⟩, hnames⟩
        rw [hnames]
        exact hfind

end Job

end CommentSwitch
