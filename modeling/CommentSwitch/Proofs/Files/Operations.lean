import CommentSwitch.Proofs.Files.Parent

/-!
# What operations change

Operations on files change little: while directories are created, nothing that was there
goes away, and writing a file changes the one place that the path leads to.

- `FileAction.created_createAll`: directories appear on the way of a path, where nothing was
- `FileAction.createAll_of_isDirectory`: a directory that is there already is left alone
- `FileAction.createFrom_again`: what could not be created can not be created afterwards
- `FileAction.runOn_write_cases`, `FileAction.runOn_replace_cases`: a file is written where
  the path has a free slot
- `FileAction.runOn_copy_cases`: a file is copied, but one that is copied onto itself is lost
-/

namespace CommentSwitch

open FileSystem

/-! ## §1 Running operations -/

namespace FileAction

section Running

variable {ε α : Type}

@[simp] theorem runOn_modify (f : FileSystem → FileSystem) (fs : FileSystem) :
    (modify f : FileAction ε PUnit).runOn fs = (.ok (), f fs) := rfl

theorem runOn_bind_eq_ok_iff {β : Type} {action : FileAction ε α} {next : α → FileAction ε β}
    {fs after : FileSystem} {b : β} :
    (action >>= next).runOn fs = (.ok b, after) ↔
      ∃ a mid, action.runOn fs = (.ok a, mid) ∧ (next a).runOn mid = (.ok b, after) := by
  rw [runOn_bind]
  rcases action.runOn fs with ⟨e | a, mid⟩ <;> simp

theorem runOn_orElse_eq_ok_iff {δ : Type} {action : FileAction δ α} {f : δ → ε}
    {fs after : FileSystem} {a : α} :
    (orElse action f).runOn fs = (.ok a, after) ↔ action.runOn fs = (.ok a, after) := by
  rw [runOn_orElse]
  rcases action.runOn fs with ⟨e | a, mid⟩ <;> simp [Except.mapError]

theorem runOn_askOr_eq_ok_iff {f : FileSystem → Except ε α} {fs after : FileSystem} {a : α} :
    (askOr f).runOn fs = (.ok a, after) ↔ f fs = .ok a ∧ after = fs := by
  rw [runOn_askOr, Prod.mk.injEq, @eq_comm _ fs after]

/-- What handles a fault starts from the file system that the fault leaves. -/
theorem runOn_tryCatch (action : FileAction ε α) (handler : ε → FileAction ε α)
    (fs : FileSystem) :
    (tryCatch action handler).runOn fs =
      match action.runOn fs with
      | (.ok a, fs) => (.ok a, fs)
      | (.error e, fs) => (handler e).runOn fs := by
  have hrun : StateT.run action fs = action.runOn fs := rfl
  rw [runOn, tryCatch, instMonadExceptOfMonadExceptOf]
  simp only [tryCatchThe, MonadExceptOf.tryCatch, ExceptT.tryCatch, ExceptT.run_mk,
    StateT.run_bind, hrun]
  rcases action.runOn fs with ⟨_ | _, after⟩ <;> rfl

end Running

theorem runOn_create (p : Path) (fs : FileSystem) :
    (create p).runOn fs =
      match fs.slot p with
      | .error e => (.error e, fs)
      | .ok (.named l _) =>
        if (fs.at? l).isSome then (.error .exists_, fs) else (.ok (), fs.put l .directory)
      | .ok _ => (.error .exists_, fs) := by
  rw [create, runOn_bind, runOn_askOr]
  cases fs.slot p with
  | error e => rfl
  | ok s =>
    cases s with
    | named l slashed =>
      simp only [runOn_bind, runOn_ask]
      split <;> simp
    | dots => rfl
    | root => rfl

/-- A directory is created in a slot where nothing is, or nothing changes. -/
theorem runOn_create_cases (p : Path) (fs : FileSystem) :
    (∃ l slashed, fs.slot p = .ok (.named l slashed) ∧ fs.at? l = none ∧
      (create p).runOn fs = (.ok (), fs.put l .directory)) ∨
    ∃ e, (create p).runOn fs = (.error e, fs) := by
  rw [runOn_create]
  cases fs.slot p with
  | error e => exact .inr ⟨e, rfl⟩
  | ok s =>
    cases s with
    | named l slashed =>
      cases hl : fs.at? l with
      | none => exact .inl ⟨l, slashed, rfl, hl, by simp [hl]⟩
      | some e => exact .inr ⟨.exists_, by simp [hl]⟩
    | dots => exact .inr ⟨.exists_, rfl⟩
    | root => exact .inr ⟨.exists_, rfl⟩

theorem runOn_ensure (p : Path) (fs : FileSystem) :
    (ensure p).runOn fs =
      match (create p).runOn fs with
      | (.ok a, fs) => (.ok a, fs)
      | (.error e, fs) => if fs.isDirectory p then (.ok (), fs) else (.error e, fs) := by
  rw [ensure, runOn_tryCatch]
  rcases (create p).runOn fs with ⟨e | a, after⟩
  · simp only [runOn_bind, runOn_ask]
    split <;> rfl
  · rfl

theorem runOn_createFrom_succ (fuel : Nat) {p : Path} (hp : p.isEmpty = false)
    (fs : FileSystem) :
    (createFrom (fuel + 1) p).runOn fs =
      match (create p).runOn fs with
      | (.ok a, fs) => (.ok a, fs)
      | (.error e, fs) =>
        if e = .notFound then
          match p.parent? with
          | some q => (createFrom fuel q >>= fun _ => ensure p).runOn fs
          | none => (.error e, fs)
        else if fs.isDirectory p then (.ok (), fs) else (.error e, fs) := by
  rw [createFrom, if_neg (by simp [hp]), runOn_tryCatch]
  rcases (create p).runOn fs with ⟨e | a, after⟩
  · simp only
    split
    · cases p.parent? <;> rfl
    · simp only [runOn_bind, runOn_ask]
      split <;> rfl
  · rfl

end FileAction

/-! ## §2 Directories that appear -/

namespace FileSystem

variable {fs mid after : FileSystem} {p q : Path}

/-- What was there is there still, and new directories lie on the way of a path. -/
structure Grows (p : Path) (fs after : FileSystem) : Prop where
  start_eq : after.start = fs.start
  kept : ∀ l e, fs.at? l = some e → after.at? l = some e
  created : ∀ l, fs.at? l = none →
    after.at? l = none ∨ (after.at? l = some .directory ∧ after.Passes p l)
  sound : fs.Sound → after.Sound

theorem Grows.keepsDirectories (h : Grows p fs after) : KeepsDirectories fs after :=
  ⟨h.start_eq, fun l hl => h.kept l _ hl⟩

theorem Grows.refl (p : Path) (fs : FileSystem) : Grows p fs fs :=
  ⟨rfl, fun _ _ h => h, fun _ h => .inl h, id⟩

theorem Grows.trans (h : Grows p fs mid) (h' : Grows p mid after) : Grows p fs after where
  start_eq := h'.start_eq.trans h.start_eq
  kept l e he := h'.kept l e (h.kept l e he)
  created l hl := by
    rcases h.created l hl with hmid | ⟨hmid, hpasses⟩
    · exact h'.created l hmid
    · exact .inr ⟨h'.kept l _ hmid, h'.keepsDirectories.passes hpasses⟩
  sound hsound := h'.sound (h.sound hsound)

theorem Grows.of_parent? (h : Grows q fs after) (hparent : p.parent? = some q) :
    Grows p fs after where
  start_eq := h.start_eq
  kept := h.kept
  created l hl := (h.created l hl).imp_right fun hl' => ⟨hl'.1, hl'.2.of_parent? hparent⟩
  sound := h.sound

theorem Grows.of_holder? (h : Grows q fs after) (hholder : p.holder? = some q) :
    Grows p fs after :=
  h.of_parent? (Path.parent?_of_holder? hholder)

/-- A file stays where it is while directories appear. -/
theorem Grows.locate (h : Grows q fs after) {l : Location} {e : Entry}
    (hp : fs.locate p = .ok (l, e)) : after.locate p = .ok (l, e) := by
  obtain ⟨hempty, hfollow, he⟩ := locate_eq_ok_iff.mp hp
  refine locate_eq_ok_iff.mpr ⟨hempty, ?_, h.kept l e he⟩
  rw [h.keepsDirectories.origin_eq]
  exact h.keepsDirectories.follow_eq_ok hfollow

/-- No file appears, and none is lost. -/
theorem Grows.file_iff (h : Grows p fs after) (l : Location) (content : ByteArray) :
    after.at? l = some (.file content) ↔ fs.at? l = some (.file content) := by
  refine ⟨fun hafter => ?_, h.kept l _⟩
  cases hfs : fs.at? l with
  | some e => rw [← h.kept l e hfs, hafter]
  | none =>
    rcases h.created l hfs with hnone | ⟨hdir, -⟩
    · simp [hnone] at hafter
    · simp [hdir] at hafter

/-- A directory was there before, or it has appeared on the way. -/
theorem Grows.directory_or_passes (h : Grows p fs after) {l : Location}
    (hl : after.at? l = some .directory) : fs.at? l = some .directory ∨ after.Passes p l := by
  cases hfs : fs.at? l with
  | some e => exact .inl (by rw [← hl, h.kept l e hfs])
  | none =>
    rcases h.created l hfs with hnone | ⟨-, hpasses⟩
    · simp [hnone] at hl
    · exact .inr hpasses

theorem grows_put_directory {l : Location} {slashed : Bool}
    (hslot : fs.slot p = .ok (.named l slashed)) (hl : fs.at? l = none) :
    Grows p fs (fs.put l .directory) := by
  have hne := ne_nil_of_slot hslot
  have hkeeps : KeepsDirectories fs (fs.put l .directory) :=
    keepsDirectories_put hne fun _ => rfl
  refine ⟨rfl, fun q e he => ?_, fun q hq => ?_, fun hsound => hsound.put hslot fun _ => rfl⟩
  · rw [at?_put_of_ne hne]
    · exact he
    · rintro rfl
      simp [hl] at he
  · by_cases hql : q = l
    · subst hql
      obtain ⟨way, trail, hsegments, -, -, hway⟩ := follow_slot hslot
      exact .inr ⟨at?_put_self hne _, hkeeps.passes ⟨way, ⟨trail, hsegments.symm⟩, hway⟩⟩
    · rw [at?_put_of_ne hne _ hql]
      exact .inl hq

end FileSystem

namespace FileAction

variable {fs after : FileSystem} {p q : Path}

/-- The result of creating a directory where one may be already, with those that hold it: it
succeeds exactly if the directory is there in the end. -/
structure Created (p : Path) (fs : FileSystem) (result : Except FileFault Unit)
    (after : FileSystem) : Prop where
  grows : Grows p fs after
  isDirectory_iff : p.isEmpty = false → (result = .ok () ↔ after.isDirectory p = true)
  unchanged : p.isEmpty = true → after = fs

/-- Where a directory is already none is created, and the fault is not that the way to it is
missing. -/
theorem runOn_create_of_isDirectory (h : fs.isDirectory p = true) :
    (create p).runOn fs = (.error .exists_, fs) := by
  obtain ⟨l, hl⟩ := isDirectory_eq_true_iff.mp h
  rw [runOn_create]
  rcases slot_of_locate hl with hroot | hdots | ⟨slashed, hnamed, -⟩
  · rw [hroot]
  · rw [hdots]
  · simp only [hnamed, (locate_eq_ok_iff.mp hl).2.2, Option.isSome_some, if_true]

theorem created_put {l : Location} {slashed : Bool}
    (hslot : fs.slot p = .ok (.named l slashed)) (hl : fs.at? l = none) :
    Created p fs (.ok ()) (fs.put l .directory) where
  grows := grows_put_directory hslot hl
  isDirectory_iff _ := by
    have hslot' := (grows_put_directory hslot hl).keepsDirectories.slot_eq_named hslot
    have hlocate := locate_of_slot_directory hslot' (at?_put_self (ne_nil_of_slot hslot) _)
    simp [isDirectory_eq_true_iff.mpr ⟨l, hlocate⟩]
  unchanged hempty := by
    simp [isEmpty_of_slot hslot] at hempty

theorem created_unchanged {result : Except FileFault Unit}
    (h : p.isEmpty = false → (result = .ok () ↔ fs.isDirectory p = true)) :
    Created p fs result fs :=
  ⟨.refl p fs, h, fun _ => rfl⟩

/-- A directory that was not created may be there already. -/
theorem created_unchanged_if (e : FileFault) (p : Path) (fs : FileSystem) :
    Created p fs (if fs.isDirectory p then (Except.ok (), fs) else (.error e, fs)).1
      (if fs.isDirectory p then (Except.ok (), fs) else (.error e, fs)).2 := by
  cases hdir : fs.isDirectory p <;> exact created_unchanged fun _ => by simp [hdir]

theorem created_ensure (p : Path) (fs : FileSystem) :
    Created p fs ((ensure p).runOn fs).1 ((ensure p).runOn fs).2 := by
  rw [runOn_ensure]
  rcases runOn_create_cases p fs with ⟨l, slashed, hslot, hl, hrun⟩ | ⟨e, hrun⟩
  · rw [hrun]
    exact created_put hslot hl
  · rw [hrun]
    exact created_unchanged_if e p fs

theorem created_createFrom (fuel : Nat) (p : Path) (fs : FileSystem) :
    Created p fs ((createFrom fuel p).runOn fs).1 ((createFrom fuel p).runOn fs).2 := by
  induction fuel generalizing p fs with
  | zero => exact created_ensure p fs
  | succ fuel ih =>
    cases hempty : p.isEmpty with
    | true =>
      rw [createFrom, if_pos hempty]
      exact created_unchanged fun h => by simp [hempty] at h
    | false =>
      rw [runOn_createFrom_succ fuel hempty]
      rcases runOn_create_cases p fs with ⟨l, slashed, hslot, hl, hrun⟩ | ⟨e, hrun⟩
      · rw [hrun]
        exact created_put hslot hl
      rw [hrun]
      by_cases he : e = .notFound
      · -- The way to the directory is missing, so it is not there.
        have hnot : fs.isDirectory p = false := by
          cases hdir : fs.isDirectory p with
          | false => rfl
          | true =>
            rw [runOn_create_of_isDirectory hdir, he] at hrun
            cases hrun
        simp only [if_pos he]
        cases hparent : p.parent? with
        | none => exact created_unchanged fun _ => by simp [hnot]
        | some q =>
          simp only [runOn_bind]
          have hq := ih q fs
          rcases hrunq : (createFrom fuel q).runOn fs with ⟨e' | a, mid⟩
          · rw [hrunq] at hq
            refine ⟨hq.grows.of_parent? hparent, fun _ => ?_, by simp [hempty]⟩
            simp only [reduceCtorEq, false_iff, Bool.not_eq_true]
            cases hdir : mid.isDirectory p with
            | false => rfl
            | true =>
              exfalso
              cases hqEmpty : q.isEmpty with
              | true =>
                obtain rfl : mid = fs := hq.unchanged hqEmpty
                rw [hnot] at hdir
                cases hdir
              | false =>
                obtain ⟨l, hl⟩ := isDirectory_eq_true_iff.mp hdir
                have hqdir := isDirectory_of_parent? hl hparent hqEmpty
                cases (hq.isDirectory_iff hqEmpty).mpr hqdir
          · rw [hrunq] at hq
            have hp := created_ensure p mid
            exact ⟨(hq.grows.of_parent? hparent).trans hp.grows, hp.isDirectory_iff,
              by simp [hempty]⟩
      · simp only [if_neg he]
        exact created_unchanged_if e p fs

theorem created_createAll (p : Path) (fs : FileSystem) :
    Created p fs ((createAll p).runOn fs).1 ((createAll p).runOn fs).2 :=
  created_createFrom _ p fs

/-- A directory that is there already is left alone. -/
theorem createFrom_of_isDirectory (fuel : Nat) (h : fs.isDirectory p = true) :
    (createFrom fuel p).runOn fs = (.ok (), fs) := by
  have hcreate := runOn_create_of_isDirectory h
  obtain ⟨l, hl⟩ := isDirectory_eq_true_iff.mp h
  have hempty : p.isEmpty = false := (locate_eq_ok_iff.mp hl).1
  cases fuel with
  | zero =>
    rw [createFrom, runOn_ensure, hcreate]
    simp [h]
  | succ fuel =>
    rw [runOn_createFrom_succ fuel hempty, hcreate]
    simp [h]

theorem createAll_of_isDirectory (h : fs.isDirectory p = true) :
    (createAll p).runOn fs = (.ok (), fs) :=
  createFrom_of_isDirectory _ h

theorem ensure_eq_error {e : FileFault} (h : (ensure p).runOn fs = (.error e, after)) :
    after = fs ∧ (create p).runOn fs = (.error e, fs) ∧ fs.isDirectory p = false := by
  rw [runOn_ensure] at h
  rcases runOn_create_cases p fs with ⟨l, slashed, -, -, hrun⟩ | ⟨e', hrun⟩
  · rw [hrun] at h
    cases h
  · rw [hrun] at h
    cases hdir : fs.isDirectory p with
    | true => simp [hdir] at h
    | false =>
      simp only [hdir, Bool.false_eq_true, if_false, Prod.mk.injEq, Except.error.injEq] at h
      obtain ⟨rfl, rfl⟩ := h
      exact ⟨rfl, hrun, rfl⟩

/-- Where no directory can be created that is to hold another one, that can not be either. -/
theorem createFrom_succ_eq_error {fuel : Nat} {e : FileFault} (hparent : p.parent? = some q)
    (hempty : p.isEmpty = false) (hqEmpty : q.isEmpty = false)
    (hq : (createFrom fuel q).runOn fs = (.error e, fs)) (hnot : fs.isDirectory q ≠ true) :
    ∃ e', (createFrom (fuel + 1) p).runOn fs = (.error e', fs) := by
  rw [runOn_createFrom_succ fuel hempty]
  rcases runOn_create_cases p fs with ⟨l, slashed, hslot, -, -⟩ | ⟨e', hcreate⟩
  · exact absurd (isDirectory_of_slot hslot hparent hqEmpty) hnot
  · have hdir : fs.isDirectory p = false := by
      rw [← Bool.not_eq_true, isDirectory_eq_true_iff]
      rintro ⟨l, hl⟩
      exact hnot (isDirectory_of_parent? hl hparent hqEmpty)
    by_cases he' : e' = .notFound
    · exact ⟨e, by simp [hcreate, he', hparent, runOn_bind, hq]⟩
    · exact ⟨e', by simp [hcreate, he', hdir]⟩

/-- What could not be created can not be created from what the attempt leaves either. -/
theorem createFrom_again {fuel : Nat} {e : FileFault}
    (h : (createFrom fuel p).runOn fs = (.error e, after)) :
    ∃ e', (createFrom fuel p).runOn after = (.error e', after) := by
  induction fuel generalizing p fs e with
  | zero =>
    obtain ⟨rfl, -, -⟩ := ensure_eq_error h
    exact ⟨e, h⟩
  | succ fuel ih =>
    -- An attempt that changes nothing is repeated as it was.
    have hsame (heq : after = fs) :
        ∃ e', (createFrom (fuel + 1) p).runOn after = (.error e', after) :=
      ⟨e, by rw [← heq] at h; exact h⟩
    cases hempty : p.isEmpty with
    | true =>
      rw [createFrom, if_pos hempty] at h
      cases h
    | false =>
      rw [runOn_createFrom_succ fuel hempty] at h
      rcases runOn_create_cases p fs with ⟨l, slashed, -, -, hcreate⟩ | ⟨e₁, hcreate⟩
      · rw [hcreate] at h
        cases h
      rw [hcreate] at h
      simp only at h
      -- Only where the way to the directory is missing its parent is created.
      split at h
      case isFalse =>
        split at h
        · cases h
        · exact hsame (Prod.mk.inj h).2.symm
      split at h
      case h_2 => exact hsame (Prod.mk.inj h).2.symm
      next q hparent =>
      rw [runOn_bind] at h
      have hq := created_createFrom fuel q fs
      cases hqEmpty : q.isEmpty with
      | true =>
        have hfs := hq.unchanged hqEmpty
        rcases hrunq : (createFrom fuel q).runOn fs with ⟨e₂ | a, mid⟩
        · rw [hrunq] at h hfs
          exact hsame ((Prod.mk.inj h).2.symm.trans hfs)
        · rw [hrunq] at h hfs
          exact hsame ((ensure_eq_error h).1.trans hfs)
      | false =>
        rcases hrunq : (createFrom fuel q).runOn fs with ⟨e₂ | a, mid⟩
        · -- The parent is missing still, and by induction it stays missing.
          rw [hrunq] at h hq
          obtain ⟨rfl, rfl⟩ : e₂ = e ∧ mid = after := by simpa using h
          have hnot : mid.isDirectory q ≠ true := by
            intro hdir
            cases (hq.isDirectory_iff hqEmpty).mpr hdir
          obtain ⟨e', hagain⟩ := ih hrunq
          exact createFrom_succ_eq_error hparent hempty hqEmpty hagain hnot
        · -- The parent is there now, so a second attempt comes to the same fault.
          rw [hrunq] at h hq
          obtain ⟨rfl, hcreate', hnot⟩ := ensure_eq_error h
          have hqdir := (hq.isDirectory_iff hqEmpty).mp rfl
          have hagain := createFrom_of_isDirectory fuel hqdir
          refine ⟨e, ?_⟩
          rw [runOn_createFrom_succ fuel hempty]
          by_cases he : e = .notFound
          · simp only [hcreate', he, if_true, hparent, runOn_bind, hagain]
            rw [← he]
            exact h
          · simp [hcreate', he, hnot]

end FileAction

/-! ## §3 Files that are written -/

namespace FileSystem

variable {fs after : FileSystem} {p : Path} {l : Location}

/-- The slot where a file can be written: it has a name, no slash follows that, and no
directory is there. -/
structure Writable (fs : FileSystem) (p : Path) (l : Location) : Prop where
  slot_eq : fs.slot p = .ok (.named l false)
  not_directory : fs.at? l ≠ some .directory

theorem Writable.ne_nil (h : fs.Writable p l) : l ≠ [] := ne_nil_of_slot h.slot_eq

theorem Writable.keepsDirectories (h : fs.Writable p l) (content : ByteArray) :
    KeepsDirectories fs (fs.put l (.file content)) :=
  keepsDirectories_put h.ne_nil fun hl => absurd hl h.not_directory

/-- A file that has been written is where the path leads to. -/
theorem Writable.locate_put (h : fs.Writable p l) (content : ByteArray) :
    (fs.put l (.file content)).locate p = .ok (l, .file content) :=
  locate_of_slot ((h.keepsDirectories content).slot_eq_named h.slot_eq)
    (at?_put_self h.ne_nil _)

theorem Writable.put (h : fs.Writable p l) (content : ByteArray) :
    (fs.put l (.file content)).Writable p l :=
  ⟨(h.keepsDirectories content).slot_eq_named h.slot_eq, by simp [at?_put_self h.ne_nil]⟩

/-- Where a path leads to a file that file can be written. -/
theorem Sound.writable_of_locate (h : fs.Sound) {content : ByteArray}
    (hlocate : fs.locate p = .ok (l, .file content)) : fs.Writable p l :=
  ⟨h.slot_of_locate_file hlocate, by simp [(locate_eq_ok_iff.mp hlocate).2.2]⟩

theorem put_put (fs : FileSystem) (l : Location) (e e' : Entry) :
    (fs.put l e).put l e' = fs.put l e' := by
  have hentries : (fs.entries.insert l e).insert l e' = fs.entries.insert l e' := by
    refine Dictionary.ext_get? fun q => ?_
    simp only [Dictionary.get?_insert]
    split <;> rfl
  rw [put, put, put, hentries]

theorem contentAt_eq_ok_iff {content : ByteArray} :
    fs.contentAt p = .ok content ↔ ∃ l, fs.locate p = .ok (l, .file content) := by
  rw [contentAt]
  cases fs.locate p with
  | error f => simp [bind, Except.bind]
  | ok x =>
    obtain ⟨l, e⟩ := x
    cases e <;> simp [bind, Except.bind, pure, Except.pure, throw, throwThe, MonadExceptOf.throw]

/-- What a path leads to, after something else may have come to that place. -/
theorem KeepsDirectories.locate (h : KeepsDirectories fs after) {e e' : Entry}
    (hp : fs.locate p = .ok (l, e)) (he : after.at? l = some e') :
    after.locate p = .ok (l, e') := by
  obtain ⟨hempty, hfollow, -⟩ := locate_eq_ok_iff.mp hp
  refine locate_eq_ok_iff.mpr ⟨hempty, ?_, he⟩
  rw [h.origin_eq]
  exact h.follow_eq_ok hfollow

end FileSystem

namespace FileAction

/-- A file is written where the path has a slot for it, and otherwise nothing changes. -/
theorem runOn_write_cases (p : Path) (content : ByteArray) (fs : FileSystem) :
    (∃ l, fs.Writable p l ∧ (write p content).runOn fs = (.ok (), fs.put l (.file content))) ∨
    ((∀ l, ¬ fs.Writable p l) ∧ ∃ e, (write p content).runOn fs = (.error e, fs)) := by
  rw [write, runOn_bind, runOn_askOr]
  cases hslot : fs.slot p with
  | error e => exact .inr ⟨fun l h => by simp [h.slot_eq] at hslot, e, rfl⟩
  | ok s =>
    cases s with
    | named l slashed =>
      simp only [runOn_bind, runOn_ask]
      by_cases hfree : slashed = true ∨ fs.at? l = some .directory
      · refine .inr ⟨fun m h => ?_, .isADirectory, by rw [if_pos hfree]; rfl⟩
        obtain ⟨rfl, rfl⟩ : m = l ∧ false = slashed := by simpa [h.slot_eq] using hslot
        simp [h.not_directory] at hfree
      · obtain ⟨hslashed, hl⟩ := not_or.mp hfree
        obtain rfl : slashed = false := by simpa using hslashed
        exact .inl ⟨l, ⟨hslot, hl⟩, by rw [if_neg hfree]; rfl⟩
    | dots => exact .inr ⟨fun l h => by simp [h.slot_eq] at hslot, .isADirectory, rfl⟩
    | root => exact .inr ⟨fun l h => by simp [h.slot_eq] at hslot, .isADirectory, rfl⟩

/-- A file is replaced where it could be written, and otherwise nothing changes. -/
theorem runOn_replace_cases (p : Path) (content : ByteArray) (fs : FileSystem) :
    (∃ l, fs.Writable p l ∧
      (replace p content).runOn fs = (.ok (), fs.put l (.file content))) ∨
    ((∀ l, ¬ fs.Writable p l) ∧ ∃ e, (replace p content).runOn fs = (.error e, fs)) := by
  rw [replace, runOn_bind, runOn_askOr]
  cases hslot : fs.slot p with
  | error e => exact .inr ⟨fun l h => by simp [h.slot_eq] at hslot, e, rfl⟩
  | ok s =>
    cases s with
    | named l slashed =>
      cases slashed with
      | true =>
        exact .inr ⟨fun m h => by simp [h.slot_eq] at hslot, .notADirectory, rfl⟩
      | false =>
        simp only [runOn_bind, runOn_ask, Bool.false_eq_true, if_false]
        by_cases hl : fs.at? l = some .directory
        · refine .inr ⟨fun m h => ?_, .isADirectory, by rw [if_pos hl]; rfl⟩
          obtain rfl : m = l := by simpa [h.slot_eq] using hslot
          exact h.not_directory hl
        · exact .inl ⟨l, ⟨hslot, hl⟩, by rw [if_neg hl]; rfl⟩
    | dots => exact .inr ⟨fun l h => by simp [h.slot_eq] at hslot, .busy, rfl⟩
    | root => exact .inr ⟨fun l h => by simp [h.slot_eq] at hslot, .busy, rfl⟩

/-- A file is copied into the slot of the output, and if it stood there itself nothing is
left of it.  A copy that fails has changed nothing. -/
theorem runOn_copy_cases (input output : Path) (fs : FileSystem) :
    (∃ m content l, fs.locate input = .ok (m, .file content) ∧ fs.Writable output l ∧
      (copy input output).runOn fs =
        (.ok (), fs.put l (.file (if m = l then ByteArray.empty else content)))) ∨
    (((∃ e, fs.contentAt input = .error e) ∨ ∀ l, ¬ fs.Writable output l) ∧
      ∃ e, (copy input output).runOn fs = (.error e, fs)) := by
  rw [copy, runOn_bind, runOn_askOr]
  cases hcontent : fs.contentAt input with
  | error e => exact .inr ⟨.inl ⟨e, rfl⟩, e, rfl⟩
  | ok content =>
    obtain ⟨m, hinput⟩ := contentAt_eq_ok_iff.mp hcontent
    simp only [runOn_bind]
    rcases runOn_write_cases output ByteArray.empty fs with
      ⟨l, hwritable, hrun⟩ | ⟨hnot, e, hrun⟩
    · left
      -- What is read behind the first write.
      have hread : (fs.put l (.file ByteArray.empty)).contentAt input =
          .ok (if m = l then ByteArray.empty else content) := by
        refine contentAt_eq_ok_iff.mpr
          ⟨m, (hwritable.keepsDirectories _).locate hinput ?_⟩
        rw [at?_put hwritable.ne_nil]
        split
        · rfl
        · exact (locate_eq_ok_iff.mp hinput).2.2
      refine ⟨m, content, l, hinput, hwritable, ?_⟩
      rw [hrun]
      simp only [runOn_askOr, hread]
      rcases runOn_write_cases output (if m = l then ByteArray.empty else content)
          (fs.put l (.file ByteArray.empty)) with ⟨l', hwritable', hrun'⟩ | ⟨hnot, -⟩
      · obtain rfl : l' = l := by
          simpa [(hwritable.put _).slot_eq] using hwritable'.slot_eq.symm
        rw [hrun', put_put]
      · exact absurd (hwritable.put _) (hnot l)
    · exact .inr ⟨.inr hnot, e, by rw [hrun]⟩

end FileAction

end CommentSwitch
