import CommentSwitch.Proofs.Converter.Batches

/-!
# Batches that are refused

A batch is refused before anything is changed, wherever in the list the bad source stands, and
a batch that is not refused fails for other reasons, if it fails.

- `FileAction.FailsWith`: what holds of every fault of an operation
- `Converter.Refused`: the batches that are refused
- `Converter.refused_iff`: exactly these batches are refused, and nothing is changed
-/

namespace CommentSwitch

/-- Whether a failure refuses a batch as a whole. -/
def Failure.isRefusal : Failure → Bool
  | .sourcesMissing | .pathMissing _ | .sourceInTarget _ _ => true
  | _ => false

/-! ## §1 Faults of operations -/

namespace FileAction

variable {δ ε α β : Type} {P : ε → Prop}

/-- Every fault of an operation has a property, whatever the file system. -/
def FailsWith (P : ε → Prop) (action : FileAction ε α) : Prop :=
  ∀ fs e after, action.runOn fs = (.error e, after) → P e

theorem FailsWith.pure (a : α) : FailsWith P (Pure.pure a : FileAction ε α) := by
  intro fs e after h
  simp at h

theorem FailsWith.throw {e : ε} (he : P e) : FailsWith P (throw e : FileAction ε α) := by
  intro fs e' after h
  obtain ⟨rfl, -⟩ : e = e' ∧ fs = after := by simpa using h
  exact he

theorem FailsWith.ask (f : FileSystem → α) : FailsWith P (ask f : FileAction ε α) := by
  intro fs e after h
  simp at h

theorem FailsWith.attempt (action : FileAction δ α) :
    FailsWith P (attempt action : FileAction ε (Except δ α)) := by
  intro fs e after h
  simp at h

theorem FailsWith.askOr {f : FileSystem → Except ε α} (hf : ∀ fs e, f fs = .error e → P e) :
    FailsWith P (askOr f) := by
  intro fs e after h
  rw [runOn_askOr, Prod.mk.injEq] at h
  exact hf fs e h.1

theorem FailsWith.orElse (action : FileAction δ α) {f : δ → ε} (hf : ∀ d, P (f d)) :
    FailsWith P (orElse action f) := by
  intro fs e after h
  rw [runOn_orElse, Prod.mk.injEq] at h
  cases hrun : (action.runOn fs).1 with
  | error d =>
    rw [hrun] at h
    obtain rfl : f d = e := Except.error.inj h.1
    exact hf d
  | ok a =>
    rw [hrun] at h
    cases h.1

theorem FailsWith.bind {action : FileAction ε α} {next : α → FileAction ε β}
    (h : FailsWith P action) (hnext : ∀ a, FailsWith P (next a)) :
    FailsWith P (action >>= next) := by
  intro fs e after hrun
  rw [runOn_bind] at hrun
  rcases haction : action.runOn fs with ⟨e' | a, mid⟩
  · rw [haction] at hrun
    obtain ⟨rfl, -⟩ : e' = e ∧ mid = after := by simpa using hrun
    exact h fs e' mid haction
  · rw [haction] at hrun
    exact hnext a mid e after hrun

theorem FailsWith.mapM {f : α → FileAction ε β} (h : ∀ a, FailsWith P (f a)) (items : List α) :
    FailsWith P (items.mapM f) := by
  induction items with
  | nil => exact .pure []
  | cons a items ih =>
    rw [List.mapM_cons]
    exact (h a).bind fun b => ih.bind fun rest => .pure (b :: rest)

end FileAction

/-! ## §2 Failures of the stages -/

open FileAction FileSystem

/-- Of checks that fail one after the other one fails so. -/
theorem exists_of_forM_eq_error {α ε : Type} {f : α → Except ε Unit} {items : List α} {e : ε}
    (h : items.forM f = .error e) : ∃ a ∈ items, f a = .error e := by
  induction items with
  | nil => cases h
  | cons a items ih =>
    change (f a >>= fun _ => items.forM f) = .error e at h
    cases ha : f a with
    | error e' =>
      rw [ha] at h
      obtain rfl : e' = e := Except.error.inj h
      exact ⟨a, List.mem_cons_self, ha⟩
    | ok u =>
      rw [ha] at h
      obtain ⟨b, hb, hfb⟩ := ih h
      exact ⟨b, List.mem_cons_of_mem _ hb, hfb⟩

/-- What is computed of several things fails only as it does of one of them. -/
theorem exists_of_mapM_eq_error {α β ε : Type} {f : α → Except ε β} {items : List α} {e : ε}
    (h : items.mapM f = .error e) : ∃ a ∈ items, f a = .error e := by
  induction items with
  | nil => cases h
  | cons a items ih =>
    rw [List.mapM_cons] at h
    cases ha : f a with
    | error e' =>
      rw [ha] at h
      obtain rfl : e' = e := Except.error.inj h
      exact ⟨a, List.mem_cons_self, ha⟩
    | ok b =>
      rw [ha] at h
      cases hrest : items.mapM f with
      | ok rest => rw [hrest] at h; cases h
      | error e' =>
        rw [hrest] at h
        obtain rfl : e' = e := Except.error.inj h
        obtain ⟨a', ha', hfa'⟩ := ih hrest
        exact ⟨a', List.mem_cons_of_mem _ ha', hfa'⟩

/-- What is computed of several things fails if it fails of one of them. -/
theorem exists_mapM_eq_error {α β ε : Type} {f : α → Except ε β} {items : List α} {a : α} {e : ε}
    (ha : a ∈ items) (hfa : f a = .error e) : ∃ e', items.mapM f = .error e' := by
  induction items with
  | nil => cases ha
  | cons b items ih =>
    rw [List.mapM_cons]
    rcases List.mem_cons.mp ha with rfl | ha
    · exact ⟨e, by rw [hfa]; rfl⟩
    · obtain ⟨e', hrest⟩ := ih ha
      cases f b with
      | error e'' => exact ⟨e'', rfl⟩
      | ok y => exact ⟨e', by rw [hrest]; rfl⟩

namespace FileSystem

variable {fs : FileSystem} {source target p : Path}

/-- A path leads to the place that another one leads to, or to one beneath it. -/
def LiesWithin (fs : FileSystem) (p directory : Path) : Prop :=
  ∃ l e m e', fs.locate p = .ok (l, e) ∧ fs.locate directory = .ok (m, e') ∧ m <+: l

theorem isWithin_eq_true_iff {directory : Path} :
    fs.isWithin p directory = true ↔ fs.LiesWithin p directory := by
  rw [isWithin, LiesWithin]
  constructor
  · intro h
    split at h
    · next l e m e' hp hdirectory =>
      exact ⟨l, e, m, e', hp, hdirectory, List.isPrefixOf_iff_prefix.mp h⟩
    · cases h
  · rintro ⟨l, e, m, e', hp, hdirectory, hprefix⟩
    simpa [hp, hdirectory] using hprefix

/-- A source passes its check exactly if it is there, and not within the target. -/
theorem checkSource_eq_ok_iff :
    fs.checkSource target source = .ok () ↔
      fs.isThere source = true ∧ ¬ fs.LiesWithin source target := by
  rw [checkSource, ← isWithin_eq_true_iff]
  cases fs.isThere source <;> cases fs.isWithin source target <;> simp

theorem isRefusal_of_checkSource {failure : Failure}
    (h : fs.checkSource target source = .error failure) : failure.isRefusal = true := by
  rw [checkSource] at h
  split at h
  · rw [← Except.error.inj h, Failure.isRefusal]
  · split at h
    · rw [← Except.error.inj h, Failure.isRefusal]
    · cases h

theorem isRefusal_of_sourceFiles {failure : Failure}
    (h : fs.sourceFiles source = .error failure) : failure.isRefusal = false := by
  rw [sourceFiles] at h
  split at h
  · rw [← Except.error.inj h]
    rfl
  · cases h
  · split at h
    · cases h
    · rw [← Except.error.inj h]
      rfl

end FileSystem

/-- A failure that does not refuse a batch. -/
abbrev Failure.Late (failure : Failure) : Prop := failure.isRefusal = false

theorem Batch.late_clear (target : Path) : FailsWith Failure.Late (Batch.clear target) := by
  refine FailsWith.bind (.ask _) fun there => ?_
  split
  · exact .orElse _ fun _ => rfl
  · exact .pure ()

theorem Batch.late_writeSummary (sources : List Path) (target : Path) (total : Nat) :
    FailsWith Failure.Late (Batch.writeSummary sources target total) := by
  rw [Batch.writeSummary]
  split
  · exact .pure ()
  · exact FailsWith.bind (.orElse _ fun _ => rfl) fun _ => .orElse _ fun _ => rfl

theorem Job.late_ofSources (sources : List Path) (target : Path) :
    FailsWith Failure.Late (askOr fun fs => Job.ofSources fs sources target) := by
  refine .askOr fun fs failure h => ?_
  rw [Job.ofSources] at h
  cases hlists : sources.mapM fs.sourceFiles with
  | ok lists => rw [hlists] at h; cases h
  | error failure' =>
    rw [hlists] at h
    obtain rfl : failure' = failure := Except.error.inj h
    obtain ⟨source, -, hsource⟩ := exists_of_mapM_eq_error hlists
    exact FileSystem.isRefusal_of_sourceFiles hsource

theorem FileAction.late_createHolder (output : Path) :
    FailsWith Failure.Late (createHolder output) := by
  rw [createHolder]
  cases output.holder? with
  | none => exact .pure ()
  | some directory => exact .orElse _ fun _ => rfl

theorem FileAction.late_copyUnchanged (input output : Path) (fault : FileFault) :
    FailsWith Failure.Late (copyUnchanged input output fault) := by
  rw [copyUnchanged]
  refine FailsWith.bind (.ask _) fun same => ?_
  split
  · exact (late_createHolder output).bind fun _ =>
      FailsWith.bind (.orElse _ fun _ => rfl) fun _ => .pure _
  · exact .pure _

namespace Converter

variable {c : Converter}

theorem late_convertFileNamed (c : Converter) (name : Option Text) (input output : Path) :
    FailsWith Failure.Late (c.convertFileNamed name input output) := by
  rw [convertFileNamed]
  refine FailsWith.bind (.ask _) fun text => ?_
  cases text with
  | error fault => exact late_copyUnchanged input output fault
  | ok content =>
    cases hlines : c.convertLines name (Text.lines content) with
    | error d =>
      simp only [hlines]
      exact .throw rfl
    | ok converted =>
      simp only [hlines]
      refine FailsWith.bind (.attempt _) fun result => ?_
      cases result with
      | error fault => exact late_copyUnchanged input output fault
      | ok u => exact .pure _

/-! ## §3 Refusals -/

/-- A batch that is refused: there are no sources, one is missing, or the target is around
one. -/
def Refused (fs : FileSystem) (sources : List Path) (target : Path) : Prop :=
  sources = [] ∨ ∃ s ∈ sources, fs.isThere s = false ∨ fs.LiesWithin s target

/-- The check of all sources fails exactly if the batch is refused. -/
theorem forM_checkSource_cases (fs : FileSystem) {sources : List Path} (target : Path)
    (hsources : sources ≠ []) :
    (¬ Refused fs sources target ∧ sources.forM (fs.checkSource target) = .ok ()) ∨
    (Refused fs sources target ∧ ∃ failure, failure.isRefusal = true ∧
      sources.forM (fs.checkSource target) = .error failure) := by
  cases hcheck : sources.forM (fs.checkSource target) with
  | ok u =>
    refine .inl ⟨?_, rfl⟩
    rintro (hnil | ⟨s, hs, hbad⟩)
    · exact hsources hnil
    · obtain ⟨hthere, hnot⟩ := FileSystem.checkSource_eq_ok_iff.mp (forall_of_forM hcheck s hs)
      rcases hbad with hmissing | hwithin
      · simp [hthere] at hmissing
      · exact hnot hwithin
  | error failure =>
    obtain ⟨s, hs, hfailure⟩ := exists_of_forM_eq_error hcheck
    refine .inr ⟨.inr ⟨s, hs, ?_⟩, failure, FileSystem.isRefusal_of_checkSource hfailure, rfl⟩
    -- A source that is there, and not within the target, would have passed.
    by_contra hgood
    obtain ⟨hthere, hnot⟩ := not_or.mp hgood
    have hpass : fs.checkSource target s = .ok () :=
      FileSystem.checkSource_eq_ok_iff.mpr ⟨by simpa using hthere, hnot⟩
    rw [hpass] at hfailure
    cases hfailure

/-- Behind the check of the sources no failure refuses the batch. -/
theorem late_process_of_not_refused (c : Converter) {fs after : FileSystem} {sources : List Path}
    {target : Path} {failure : Failure} (hnot : ¬ Refused fs sources target)
    (h : (c.process sources target).runOn fs = (.error failure, after)) : failure.Late := by
  have hsources : sources ≠ [] := fun hnil => hnot (.inl hnil)
  rcases forM_checkSource_cases fs target hsources with ⟨-, hcheck⟩ | ⟨hrefused, -⟩
  · rw [process, if_neg (by simpa using hsources), runOn_bind, runOn_askOr, hcheck] at h
    have hrest : FailsWith Failure.Late (do
        Batch.clear target
        let jobs ← askOr fun fs => Job.ofSources fs sources target
        let reports ← c.convertJobs jobs
        Batch.writeSummary sources target reports.length
        return reports) := by
      refine (Batch.late_clear target).bind fun _ => (Job.late_ofSources sources target).bind
        fun jobs => FailsWith.bind (.mapM (fun j => ?_) jobs) fun reports => ?_
      · exact late_convertFileNamed c _ j.input j.output
      · exact (Batch.late_writeSummary sources target _).bind fun _ => .pure reports
    exact hrest fs failure after h
  · exact absurd hrefused hnot

/-- A batch that is refused fails at once. -/
theorem runOn_process_of_refused (c : Converter) {fs : FileSystem} {sources : List Path}
    {target : Path} (h : Refused fs sources target) :
    ∃ failure, failure.isRefusal = true ∧
      (c.process sources target).runOn fs = (.error failure, fs) := by
  by_cases hsources : sources = []
  · subst hsources
    exact ⟨.sourcesMissing, rfl, rfl⟩
  · rcases forM_checkSource_cases fs target hsources with
      ⟨hnot, -⟩ | ⟨-, failure, hrefusal, hcheck⟩
    · exact absurd h hnot
    · refine ⟨failure, hrefusal, ?_⟩
      rw [process, if_neg (by simpa using hsources), runOn_bind, runOn_askOr, hcheck]

/-- Where a path is missing no jobs are found, so none is carried out. -/
theorem allInPlace_of_missing {fs : FileSystem} {paths : List Path} {p : Path} (hp : p ∈ paths)
    (hmissing : fs.isThere p = false) :
    ∃ failure, Job.allInPlace fs paths = .error failure := by
  have hjobs : Job.inPlace fs p = .error (.pathMissing p) := by simp [Job.inPlace, hmissing]; rfl
  obtain ⟨failure, hfailure⟩ := exists_mapM_eq_error hp hjobs
  exact ⟨failure, by rw [Job.allInPlace, hfailure]; rfl⟩

/-- **A refused batch changes nothing**: a batch without sources, with a source that is missing
or with one that the target is around, is refused, and so is no other; and where one of the
paths is missing that are to be converted in place, none is converted. -/
theorem refused_iff (c : Converter) (fs : FileSystem) (sources : List Path) (target : Path)
    (paths : List Path) :
    (Refused fs sources target ↔ ∃ failure, failure.isRefusal = true ∧
      (c.process sources target).runOn fs = (.error failure, fs)) ∧
    ((∃ p ∈ paths, fs.isThere p = false) →
      ∃ failure, (c.applyInPlace paths).runOn fs = (.error failure, fs)) := by
  refine ⟨⟨runOn_process_of_refused c, ?_⟩, ?_⟩
  · rintro ⟨failure, hrefusal, hrun⟩
    by_contra hnot
    rw [late_process_of_not_refused c hnot hrun] at hrefusal
    cases hrefusal
  · rintro ⟨p, hp, hmissing⟩
    obtain ⟨failure, hjobs⟩ := allInPlace_of_missing hp hmissing
    refine ⟨failure, ?_⟩
    rw [applyInPlace, runOn_bind, runOn_askOr, hjobs]

/-- A directory with a text, and a target that holds an older one. -/
def sourceAndTarget : FileSystem :=
  ⟨.ofList [([Text.ofString "out"], .directory),
      ([Text.ofString "out", Text.ofString "old.txt"], .file (bytesOf (Text.ofString "old\n"))),
      ([Text.ofString "src"], .directory),
      ([Text.ofString "src", Text.ofString "a.txt"], .file (bytesOf (Text.ofString "one")))], []⟩

theorem refused_missingLast :
    let src := Path.ofText (Text.ofString "src")
    let missing := Path.ofText (Text.ofString "missing")
    let out := Path.ofText (Text.ofString "out")
    Refused sourceAndTarget [src, missing] out ∧ sourceAndTarget.isThere missing = false ∧
      (∃ failure, failure.isRefusal = true ∧
        (standard.process [src, missing] out).runOn sourceAndTarget =
          (.error failure, sourceAndTarget)) ∧
      ∃ failure, (standard.applyInPlace [src, missing]).runOn sourceAndTarget =
        (.error failure, sourceAndTarget) := by
  intro src missing out
  have hmissing : sourceAndTarget.isThere missing = false := by decide +kernel
  have hmem : missing ∈ [src, missing] := by simp
  have hrefused : Refused sourceAndTarget [src, missing] out :=
    .inr ⟨missing, hmem, .inl hmissing⟩
  have hboth := refused_iff standard sourceAndTarget [src, missing] out [src, missing]
  exact ⟨hrefused, hmissing, hboth.1.mp hrefused, hboth.2 ⟨missing, hmem, hmissing⟩⟩

end Converter

end CommentSwitch
