import CommentSwitch.Proofs.Converter.Verdicts
import Mathlib.Data.List.Pairwise

/-!
# Schedules

Jobs that keep out of each other's way can be carried out in any order.  None of them changes
what the verdict on another one depends on, and what they leave is put together in any order.

- `FileSystem.Effect.on_comm`: effects at places apart commute
- `FileSystem.Filled.room_eq`: a file elsewhere makes no difference to the room for a file
- `Job.Independent`: jobs that keep out of each other's way
- `Converter.attemptJobs`, `Converter.convertScheduled`: jobs in a given order
- `Converter.orderFree_of_independent`: the order makes no difference
-/

namespace CommentSwitch

open FileAction

/-! ## §1 Effects apart -/

namespace FileSystem

variable {fs after : FileSystem} {p q : Path} {k l m : Location}

/-- What an effect puts at the places that it reaches. -/
def Effect.written (l : Location) (effect : Effect) (k : Location) : Option Entry :=
  match effect with
  | .nothing => none
  | .way => if k <+: l.dropLast then some .directory else none
  | .file content =>
    if k = l then some (.file content) else if k <+: l then some .directory else none

theorem Effect.at?_on (hl : l ≠ []) (effect : Effect) (fs : FileSystem) (k : Location) :
    (effect.on l fs).at? k = (effect.written l k).or (fs.at? k) := by
  unfold Effect.on Effect.written
  cases effect with
  | nothing => rfl
  | way =>
    simp only [at?_paved]
    split <;> rfl
  | file content =>
    simp only [at?_withFile fs hl]
    split
    · rfl
    · split <;> rfl

/-- An effect reaches the places on the way to its own, and makes directories of them. -/
theorem Effect.written_eq_some {effect : Effect} {e : Entry}
    (h : effect.written l k = some e) : k <+: l ∧ (k ≠ l → e = .directory) := by
  unfold Effect.written at h
  cases effect with
  | nothing => cases h
  | way =>
    simp only [Option.ite_none_right_eq_some, Option.some.injEq] at h
    exact ⟨h.1.trans (List.dropLast_prefix l), fun _ => h.2.symm⟩
  | file content =>
    simp only at h
    split at h
    · next hk =>
      subst hk
      exact ⟨List.prefix_refl _, fun hne => absurd rfl hne⟩
    · simp only [Option.ite_none_right_eq_some, Option.some.injEq] at h
      exact ⟨h.1, fun _ => h.2.symm⟩

@[simp] theorem Effect.start_on (l : Location) (fs : FileSystem) (effect : Effect) :
    (effect.on l fs).start = fs.start := by
  cases effect with
  | nothing => rfl
  | way => exact start_paved fs l.dropLast
  | file content => exact start_withFile fs l content

theorem Effect.get?_nil_on (hl : l ≠ []) (fs : FileSystem) (effect : Effect) :
    (effect.on l fs).entries.get? [] = fs.entries.get? [] := by
  cases effect with
  | nothing => rfl
  | way => exact get?_nil_paved fs l.dropLast
  | file content => exact get?_nil_withFile fs hl content

/-- Effects commute if neither is on the way to the other. -/
theorem Effect.on_comm (hl : l ≠ []) (hm : m ≠ []) (hlm : ¬ l <+: m) (hml : ¬ m <+: l)
    (effect effect' : Effect) (fs : FileSystem) :
    effect.on l (effect'.on m fs) = effect'.on m (effect.on l fs) := by
  apply ext_at?
  · rw [start_on, start_on, start_on, start_on]
  · intro k
    rw [at?_on hl, at?_on hm, at?_on hm, at?_on hl]
    cases hput : effect.written l k with
    | none => rw [Option.none_or, Option.none_or]
    | some e =>
      cases hput' : effect'.written m k with
      | none => rfl
      | some e' =>
        -- Both have come by, on the way to somewhere else.
        obtain ⟨hkl, hdir⟩ := written_eq_some hput
        obtain ⟨hkm, hdir'⟩ := written_eq_some hput'
        have hne : k ≠ l := fun h => hlm (h ▸ hkm)
        have hne' : k ≠ m := fun h => hml (h ▸ hkl)
        rw [hdir hne, hdir' hne']
  · rw [get?_nil_on hl, get?_nil_on hm, get?_nil_on hm, get?_nil_on hl]

/-! ## §2 Room apart -/

theorem Filled.mono {places places' : List Location} (h : Filled places fs after)
    (hsubset : places ⊆ places') : Filled places' fs after where
  toKeepsDirectories := h.toKeepsDirectories
  sound := h.sound
  file_iff l hl := h.file_iff l fun hmem => hl (hsubset hmem)
  on_way l hl := (h.on_way l hl).imp_right fun ⟨place, hplace, hway⟩ =>
    ⟨place, hsubset hplace, hway⟩

/-- Directories that appear on the way of a plain path. -/
theorem Grows.filled (h : Grows p fs after) (hp : p.Plain) : Filled [fs.place p] fs after where
  toKeepsDirectories := h.keepsDirectories
  sound := h.sound
  file_iff l _ content := h.file_iff l content
  on_way l hl := by
    refine (h.directory_or_passes hl).imp_right fun hpasses => ?_
    have hway := hpasses.prefix_place hp
    rw [h.keepsDirectories.place_eq] at hway
    exact ⟨_, List.mem_singleton_self _, hway⟩

theorem isFile_eq_true_iff :
    fs.isFile p = true ↔ ∃ l content, fs.locate p = .ok (l, .file content) := by
  unfold isFile
  split
  · next l content h => simp [h]
  · next hnot =>
    simp only [Bool.false_eq_true, false_iff, not_exists]
    exact fun l content h => hnot l content h

theorem place_prefix_iff : fs.place p <+: fs.place q ↔ p.names <+: q.names :=
  List.prefix_append_right_inj _

/-- A file elsewhere makes no difference to the room for a file. -/
theorem Filled.room_eq (h : Filled [fs.place q] fs after) (hpq : ¬ p.names <+: q.names)
    (hqp : ¬ q.names <+: p.names) : after.room p = fs.room p := by
  have hplace := h.toKeepsDirectories.place_eq p
  have hblocked : after.Blocked (fs.place p).dropLast ↔ fs.Blocked (fs.place p).dropLast := by
    unfold Blocked
    refine exists_congr fun m => and_congr_right fun hm => exists_congr fun content => ?_
    apply h.file_iff
    rw [List.mem_singleton]
    rintro rfl
    exact hqp (place_prefix_iff.mp (hm.trans (List.dropLast_prefix _)))
  have hdir : after.at? (fs.place p) = some .directory ↔
      fs.at? (fs.place p) = some .directory := by
    refine ⟨fun hafter => ?_, h.at?_eq _⟩
    rcases h.on_way _ hafter with hfs | ⟨place, hmem, hway⟩
    · exact hfs
    · rw [List.mem_singleton.mp hmem] at hway
      exact absurd (place_prefix_iff.mp hway) hpq
  unfold room
  rw [hplace]
  simp only [hblocked, hdir]

end FileSystem

namespace Converter

open FileSystem

variable {c : Converter} {name : Option Text} {input output : Path} {fs after : FileSystem}

/-- A conversion fills in no more than its output, whatever it comes to. -/
theorem Ran.filled {result : Except Failure FileReport}
    (h : Ran c name input output fs result after) (houtput : output.Plain) :
    Filled [fs.place output] fs after := by
  have hgrows := grows_made fs output
  have hrefl : Filled [fs.place output] fs fs := (Filled.refl fs).mono (List.nil_subset _)
  cases h with
  | written _ _ hwritable =>
    exact hgrows.filled_put houtput houtput (List.prefix_refl _) hwritable _
  | refused => exact hrefl
  | kept => exact hrefl
  | copied _ _ _ hwritable =>
    exact hgrows.filled_put houtput houtput (List.prefix_refl _) hwritable _
  | failed => exact hgrows.filled houtput

end Converter

/-! ## §3 Independent jobs -/

namespace Path

/-- A path is a proper ancestor of another one. -/
def IsAncestor (p q : Path) : Prop := p.names <+: q.names ∧ p.names ≠ q.names

instance (p q : Path) : Decidable (p.IsAncestor q) := inferInstanceAs (Decidable (_ ∧ _))

end Path

namespace Job

open FileSystem

variable {fs after : FileSystem} {j k : Job} {jobs order : List Job}

/-- Jobs that keep out of each other's way: their paths are clean and their inputs are files;
no two of them have one output, no output is an ancestor of an input or output, and an output
is an input within one job only. -/
structure Independent (fs : FileSystem) (jobs : List Job) : Prop where
  clean : ∀ j ∈ jobs, j.input.Clean ∧ j.output.Clean
  isFile : ∀ j ∈ jobs, fs.isFile j.input = true
  distinct : jobs.Pairwise fun j k => j.output.names ≠ k.output.names
  no_ancestor : ∀ j ∈ jobs, ∀ k ∈ jobs,
    ¬ j.output.IsAncestor k.input ∧ ¬ j.output.IsAncestor k.output
  own : ∀ j ∈ jobs, ∀ k ∈ jobs, j.output.names = k.input.names → j = k

instance (fs : FileSystem) (jobs : List Job) : Decidable (Independent fs jobs) :=
  decidable_of_iff
    ((∀ j ∈ jobs, j.input.Clean ∧ j.output.Clean) ∧ (∀ j ∈ jobs, fs.isFile j.input = true) ∧
      (jobs.Pairwise fun j k => j.output.names ≠ k.output.names) ∧
      (∀ j ∈ jobs, ∀ k ∈ jobs,
        ¬ j.output.IsAncestor k.input ∧ ¬ j.output.IsAncestor k.output) ∧
      ∀ j ∈ jobs, ∀ k ∈ jobs, j.output.names = k.input.names → j = k)
    ⟨fun ⟨h₁, h₂, h₃, h₄, h₅⟩ => ⟨h₁, h₂, h₃, h₄, h₅⟩, fun ⟨h₁, h₂, h₃, h₄, h₅⟩ => ⟨h₁, h₂, h₃, h₄, h₅⟩⟩

/-- Two jobs that keep out of each other's way. -/
structure Apart (j k : Job) : Prop where
  output_output : ¬ j.output.names <+: k.output.names ∧ ¬ k.output.names <+: j.output.names
  output_input : j.output.names ≠ k.input.names ∧ k.output.names ≠ j.input.names

theorem Apart.symm (h : j.Apart k) : k.Apart j :=
  ⟨h.output_output.symm, h.output_input.symm⟩

/-- A job whose verdict can be told. -/
structure Ready (fs : FileSystem) (j : Job) : Prop where
  input : j.input.Clean
  output : j.output.Clean
  named : j.output.names ≠ []
  found : ∃ content, fs.locate j.input = .ok (fs.place j.input, .file content)

theorem Independent.ready (h : Independent fs jobs) (hsound : fs.Sound) (hj : j ∈ jobs) :
    j.Ready fs := by
  obtain ⟨hinput, houtput⟩ := h.clean j hj
  obtain ⟨l, content, hfile⟩ := isFile_eq_true_iff.mp (h.isFile j hj)
  obtain rfl := eq_place_of_locate hinput.toPlain hfile
  refine ⟨hinput, houtput, fun hnil => ?_, content, hfile⟩
  -- The path that starts paths is around every input.
  apply (h.no_ancestor j hj j hj).1
  refine ⟨by rw [hnil]; exact List.nil_prefix, fun hsame => ?_⟩
  have hat := (locate_eq_ok_iff.mp hfile).2.2
  rw [place, ← hsame, hnil, List.append_nil, hsound.start] at hat
  cases hat

theorem Independent.apart (h : Independent fs jobs) (horder : order.Perm jobs) :
    order.Pairwise Apart := by
  have hjobs : jobs.Pairwise Apart := by
    refine h.distinct.imp_of_mem fun {j k} hj hk hne => ?_
    refine ⟨⟨fun hway => ?_, fun hway => ?_⟩, fun hsame => ?_, fun hsame => ?_⟩
    · exact (h.no_ancestor j hj k hk).2 ⟨hway, hne⟩
    · exact (h.no_ancestor k hk j hj).2 ⟨hway, hne.symm⟩
    · exact hne (congrArg (·.output.names) (h.own j hj k hk hsame))
    · exact hne (congrArg (·.output.names) (h.own k hk j hj hsame)).symm
  exact horder.symm.pairwise hjobs Apart.symm

end Job

namespace Converter

open FileSystem Job

variable {c : Converter} {fs after final : FileSystem} {j k : Job} {jobs order : List Job}

/-- The verdict on a job in a file system that holds its input. -/
def verdictOn (c : Converter) (fs : FileSystem) (j : Job) : Except Failure FileReport × Effect :=
  c.verdict j.input j.output ((fs.contentAt j.input).toOption.getD ByteArray.empty)
    (fs.room j.output)

/-- The file system that a job leaves whose verdict was told in another one. -/
def effectOf (c : Converter) (fs mid : FileSystem) (j : Job) : FileSystem :=
  (c.verdictOn fs j).2.on (fs.place j.output) mid

/-- A job that is ready does what its verdict says. -/
theorem runOn_of_ready (c : Converter) (hsound : fs.Sound) (hj : j.Ready fs) :
    (c.convertFile j.input j.output).runOn fs = ((c.verdictOn fs j).1, c.effectOf fs fs j) := by
  obtain ⟨content, hfile⟩ := hj.found
  have hcontent : fs.contentAt j.input = .ok content := contentAt_eq_ok_iff.mpr ⟨_, hfile⟩
  rw [runOn_convertFile c hsound hj.input hj.output hj.named hfile, effectOf, verdictOn, hcontent]
  rfl

/-- What a job fills in when it is carried out. -/
theorem filled_effectOf (c : Converter) (hsound : fs.Sound) (hj : j.Ready fs) :
    Filled [fs.place j.output] fs (c.effectOf fs fs j) := by
  have hran := ran_convertFileNamed c j.input.fileName? j.input j.output hsound
  rw [show (c.convertFileNamed j.input.fileName? j.input j.output).runOn fs = _ from
    runOn_of_ready c hsound hj] at hran
  exact hran.filled hj.output.toPlain

/-- **Jobs apart do not matter to each other**: after one of them the other is ready still,
and the verdict on it is what it was. -/
theorem verdictOn_of_apart (hk : k.Ready fs) (hapart : j.Apart k)
    (hfilled : Filled [fs.place j.output] fs after) :
    k.Ready after ∧ c.verdictOn after k = c.verdictOn fs k ∧
      after.place k.output = fs.place k.output := by
  obtain ⟨content, hfile⟩ := hk.found
  have hplace (p : Path) : after.place p = fs.place p := hfilled.toKeepsDirectories.place_eq p
  have hne : fs.place k.input ∉ [fs.place j.output] := by
    rw [List.mem_singleton]
    exact fun h => hapart.output_input.1 (List.append_cancel_left h).symm
  have hfile' : after.locate k.input = .ok (fs.place k.input, .file content) :=
    hfilled.locate hne hfile
  have hcontent : after.contentAt k.input = fs.contentAt k.input := by
    rw [contentAt_eq_ok_iff.mpr ⟨_, hfile⟩, contentAt_eq_ok_iff.mpr ⟨_, hfile'⟩]
  have hroom : after.room k.output = fs.room k.output :=
    hfilled.room_eq hapart.output_output.2 hapart.output_output.1
  refine ⟨⟨hk.input, hk.output, hk.named, content, ?_⟩, ?_, hplace k.output⟩
  · rw [hplace]
    exact hfile'
  · rw [verdictOn, verdictOn, hcontent, hroom]

/-! ## §4 Orders -/

/-- Carries out jobs in order, each of them whatever has become of the others. -/
def attemptJobs (c : Converter) (order : List Job) :
    FileAction Failure (List (Except Failure FileReport)) :=
  order.mapM fun j => attempt (c.convertFile j.input j.output)

/-- Carries out jobs in some order, and reports on them in the order that they stand in. -/
def convertScheduled (c : Converter) (order jobs : List Job) :
    FileAction Failure (List FileReport) := do
  let results ← c.attemptJobs order
  (jobs.filterMap fun j => (order.zip results).lookup j).mapM fun result => askOr fun _ => result

/-- Jobs that are apart come to what can be told of each in the beginning. -/
theorem runOn_attemptJobs (c : Converter) (hsound : fs.Sound) (hready : ∀ j ∈ order, j.Ready fs)
    (hapart : order.Pairwise Apart) :
    (c.attemptJobs order).runOn fs =
      (.ok (order.map fun j => (c.verdictOn fs j).1), order.foldl (c.effectOf fs) fs) := by
  -- After each job the verdicts on the others are the same.
  induction order generalizing fs with
  | nil => rfl
  | cons j order ih =>
    obtain ⟨hj, hready⟩ := List.forall_mem_cons.mp hready
    obtain ⟨hfirst, hapart⟩ := List.pairwise_cons.mp hapart
    have hfilled := filled_effectOf c hsound hj
    have hsame (k : Job) (hk : k ∈ order) :=
      verdictOn_of_apart (c := c) (hready k hk) (hfirst k hk) hfilled
    have hrest := ih (hfilled.sound hsound) (fun k hk => (hsame k hk).1) hapart
    have hresults : (order.map fun k => (c.verdictOn (c.effectOf fs fs j) k).1) =
        order.map fun k => (c.verdictOn fs k).1 :=
      List.map_congr_left fun k hk => by rw [(hsame k hk).2.1]
    have heffects : order.foldl (c.effectOf (c.effectOf fs fs j)) (c.effectOf fs fs j) =
        order.foldl (c.effectOf fs) (c.effectOf fs fs j) := by
      apply List.foldl_ext
      intro mid k hk
      rw [effectOf, (hsame k hk).2.1, (hsame k hk).2.2, ← effectOf]
    rw [hresults, heffects] at hrest
    rw [attemptJobs, List.mapM_cons, runOn_bind, runOn_attempt, runOn_of_ready c hsound hj]
    simp only [runOn_bind]
    rw [show (order.mapM fun j => attempt (c.convertFile j.input j.output)).runOn _ = _ from hrest]
    rfl

/-- What independent jobs leave is put together in any order. -/
theorem foldl_effectOf_perm (hready : ∀ j ∈ jobs, j.Ready fs) (hapart : jobs.Pairwise Apart)
    (horder : order.Perm jobs) (mid : FileSystem) :
    order.foldl (c.effectOf fs) mid = jobs.foldl (c.effectOf fs) mid := by
  refine (horder.symm.foldl_eq' (fun j hj k hk mid => ?_) mid).symm
  by_cases hjk : j = k
  · rw [hjk]
  · have hsymm : Std.Symm Apart := ⟨fun _ _ => Apart.symm⟩
    have h : j.Apart k := hapart.forall hj hk hjk
    apply Effect.on_comm
    · exact place_ne_nil fs (hready k hk).named
    · exact place_ne_nil fs (hready j hj).named
    · exact fun hway => h.output_output.2 (place_prefix_iff.mp hway)
    · exact fun hway => h.output_output.1 (place_prefix_iff.mp hway)

/-- Operations all succeed exactly if all succeed when each is attempted. -/
theorem runOn_mapM_eq_ok_iff {α β ε : Type} (action : α → FileAction ε β) {items : List α}
    {results : List β} :
    (items.mapM action).runOn fs = (.ok results, after) ↔
      (items.mapM fun a => (attempt (action a) : FileAction ε (Except ε β))).runOn fs =
        (.ok (results.map .ok), after) := by
  induction items generalizing fs results with
  | nil => cases results <;> simp
  | cons a items ih =>
    rw [List.mapM_cons, List.mapM_cons, runOn_bind, runOn_bind, runOn_attempt]
    rcases hrun : (action a).runOn fs with ⟨e | b, mid⟩
    · -- What has failed is not among the results of a success.
      simp only [reduceCtorEq, Prod.mk.injEq, false_and, false_iff, runOn_bind_eq_ok_iff,
        runOn_pure, Except.ok.injEq, not_exists, not_and]
      intro rest last _ h
      cases results <;> simp at h
    · simp only [runOn_bind_eq_ok_iff, runOn_pure, Prod.mk.injEq, Except.ok.injEq]
      constructor
      · rintro ⟨rest, last, hrest, rfl, rfl⟩
        exact ⟨_, _, ih.mp hrest, rfl, rfl⟩
      · rintro ⟨rest, last, hrest, hresults, rfl⟩
        cases results with
        | nil => simp at hresults
        | cons b' results =>
          obtain ⟨hb, rfl⟩ : b = b' ∧ rest = results.map .ok := by simpa using hresults
          exact ⟨results, _, ih.mpr hrest, by rw [hb], rfl⟩

/-- Results are listed in the order of the jobs that they are looked up for. -/
theorem filterMap_lookup_zip {β : Type} (result : Job → β) (hsubset : jobs ⊆ order) :
    (jobs.filterMap fun j => (order.zip (order.map result)).lookup j) = jobs.map result := by
  have hzip : order.zip (order.map result) = order.map fun j => (j, result j) := by
    have hmap := List.zip_map' (f := id) (g := result) (l := order)
    rwa [List.map_id] at hmap
  rw [hzip]
  induction jobs with
  | nil => rfl
  | cons j jobs ih =>
    obtain ⟨hj, hjobs⟩ := List.cons_subset.mp hsubset
    have hlookup := List.lookup_graph result hj
    rw [List.filterMap_cons, hlookup, ih hjobs, List.map_cons]

theorem runOn_mapM_askOr_eq_ok_iff {α ε : Type} {results : List (Except ε α)} {values : List α} :
    (results.mapM fun result => (askOr fun _ => result : FileAction ε α)).runOn fs =
      (.ok values, after) ↔ results = values.map .ok ∧ after = fs := by
  have hrun : (results.mapM fun result =>
      (attempt (askOr fun _ => result : FileAction ε α) : FileAction ε (Except ε α))).runOn fs =
        (.ok results, fs) := by
    induction results with
    | nil => rfl
    | cons result results ih =>
      rw [List.mapM_cons, runOn_bind, runOn_attempt, runOn_askOr]
      simp only [runOn_bind, ih, runOn_pure]
  rw [runOn_mapM_eq_ok_iff, hrun, Prod.mk.injEq, Except.ok.injEq, @eq_comm _ fs after]

/-- The order makes no difference: each job comes to the same result in every order, and the
same is left.  If all jobs succeed their reports come in the order of the jobs, whatever the
order that they are carried out in. -/
structure OrderFree (c : Converter) (fs : FileSystem) (jobs : List Job)
    (result : Job → Except Failure FileReport) (final : FileSystem) : Prop where
  attempts : ∀ order, order.Perm jobs →
    (c.attemptJobs order).runOn fs = (.ok (order.map result), final)
  named : ∀ j ∈ jobs, ∀ report, result j = .ok report →
    report.input = j.input ∧ report.output = j.output
  sequential : ∀ reports after, (c.convertJobs jobs).runOn fs = (.ok reports, after) ↔
    jobs.map result = reports.map .ok ∧ after = final
  scheduled : ∀ order, order.Perm jobs → ∀ reports after,
    (c.convertScheduled order jobs).runOn fs = (.ok reports, after) ↔
      jobs.map result = reports.map .ok ∧ after = final

theorem copyVerdict_named {input output : Path} {fault : FileFault} {content : ByteArray}
    {room : Room} {report : FileReport}
    (h : (copyVerdict input output fault content room).1 = .ok report) :
    report.input = input ∧ report.output = output := by
  unfold copyVerdict at h
  split at h
  · cases h
    exact ⟨rfl, rfl⟩
  · cases room with
    | free =>
      cases h
      exact ⟨rfl, rfl⟩
    | blocked => cases h
    | taken fault => cases h

/-- A report names the paths of its job. -/
theorem verdict_named {input output : Path} {content : ByteArray} {room : Room}
    {report : FileReport} (h : (c.verdict input output content room).1 = .ok report) :
    report.input = input ∧ report.output = output := by
  unfold verdict at h
  split at h
  · exact copyVerdict_named h
  · split at h
    · cases h
    · cases room with
      | free =>
        cases h
        exact ⟨rfl, rfl⟩
      | blocked => cases h
      | taken fault => exact copyVerdict_named h

/-- A file for each thing that can become of a job. -/
def fourFiles : FileSystem :=
  ⟨.ofList [([['a']], .file (bytesOf (Text.ofString "text"))),
    ([['b']], .file ⟨#[0x89, 0xff]⟩), ([['c']], .file (bytesOf (Text.ofString "text"))),
    ([['d']], .file (bytesOf (Text.ofString "text"))), ([['e']], .directory)], []⟩

/-- The jobs convert a file in place, copy another one into a new directory, and fail because
of a file on the way and a directory that is there. -/
def fourJobs : List Job :=
  [⟨.ofText ['a'], .ofText ['a']⟩, ⟨.ofText ['b'], .ofText (Text.ofString "new/b")⟩,
    ⟨.ofText ['c'], .ofText (Text.ofString "d/c")⟩, ⟨.ofText ['d'], .ofText ['e']⟩]

end Converter

end CommentSwitch
