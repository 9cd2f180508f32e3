import CommentSwitch.Proofs.Settings.Registration
import CommentSwitch.Settings.Printing

/-!
# Printed settings

What is loaded from the document that is printed for settings.  Variables, remap pairs and the
switch come back as they were.  Keyword sets are registered once more on the way, so they come back
if their extensions are left as they are by that.

- `Settings.load_print`: what a printed document loads as
- `Settings.load_print_eq_iff`: settings that come back as they were
- `Settings.load_print_apply_eq_iff`: the same for the settings of a run
-/

namespace CommentSwitch

open Yaml (Content Load Node Tree)

/-! ## §1 Variables -/

namespace Variables

/-- What a text stands for as a value has that text. -/
theorem ofTrees_texts (texts : List (Text × Text)) :
    ofTrees (texts.map fun e => (e.1, Tree.text e.2)) = .ok (.ofList texts) := by
  unfold ofTrees
  rw [List.mapM_map]
  show (texts.mapM (m := Except Yaml.LoadFault) fun e => pure (id e)) >>= _ = _
  rw [List.mapM_pure, List.map_id]
  rfl

/-- Variables are written as texts, and read as values whose texts they are. -/
theorem load_gives {vars : Variables} {n : Node} (h : vars.content.heldBy n = true)
    (depth : Nat) : (Variables.load (depth + 1) n).Gives vars := by
  obtain ⟨m, rfl, hentries⟩ := Content.exists_of_heldBy_mapping h
  have htrees (u : Text) (v : Node) (hv : (Content.text u).heldBy v = true) :
      (Load.tree depth v).Gives (.text u) :=
    Load.tree_gives depth (by simpa [Content.heldBy] using hv)
  apply (Load.entries_gives depth m).bind
  apply (Load.table_gives htrees hentries).bind
  apply Load.Gives.lift
  -- The names are in order already, so no value takes the place of another one.
  have hordered : (vars.entries.map fun e => (e.1, Tree.text e.2)).Pairwise fun a b => a.1 < b.1 :=
    List.pairwise_map.mpr vars.ordered
  show ofTrees (Dictionary.ofList (Dictionary.mk _ hordered).entries).entries = _
  rw [Dictionary.ofList_entries, ofTrees_texts, Dictionary.ofList_entries]

end Variables

/-! ## §2 Keyword sets -/

namespace Keywords

theorem roleNamed?_name (role : Role) : roleNamed? role.name = some role := by
  cases role <;> decide

theorem loadToken_gives {tokens : List (Role × Text)} {role : Role} {u : Text} {k v : Node}
    (hk : k.saysText role.name = true) (hv : v.saysText u = true)
    (hnew : role ∉ tokens.map Prod.fst) :
    (loadToken tokens k v).Gives ((role, u) :: tokens) := by
  apply (Load.text_gives hk).bind
  rw [roleNamed?_name]
  show Load.Gives (if (tokens.lookup role).isSome = true then _ else _) _
  rw [lookup_eq_none hnew]
  exact (Load.text_gives hv).bind (.pure _)

/-- The fields of different roles are read one after the other. -/
theorem foldlM_loadToken_gives (k : Keywords) {roles : List Role} {m : List (Node × Node)}
    (h : Content.HeldInTurn (roles.map fun role => (role.name, .text (k.token role))) m)
    {tokens : List (Role × Text)} (hnodup : roles.Nodup)
    (hnew : ∀ role ∈ roles, role ∉ tokens.map Prod.fst) :
    Load.Gives (m.foldlM (fun tokens r => loadToken tokens r.1 r.2) tokens)
      ((roles.map fun role => (role, k.token role)).reverse ++ tokens) := by
  induction roles generalizing m tokens with
  | nil =>
    cases h
    exact .pure _
  | cons role roles ih =>
    obtain ⟨hrole, hroles⟩ := List.nodup_cons.mp hnodup
    obtain ⟨hfirst, hrest⟩ := List.forall_mem_cons.mp hnew
    cases h with
    | @cons r _ m _ hhead htail =>
      rw [List.foldlM_cons, List.map_cons, List.reverse_cons, List.append_assoc]
      have hvalue : r.2.saysText (k.token role) = true := by
        simpa [Content.heldBy] using hhead.2
      apply (loadToken_gives hhead.1 hvalue hfirst).bind
      apply ih htail hroles
      intro other hother
      have hne : other ≠ role := fun heq => hrole (heq ▸ hother)
      simpa [hne] using hrest other hother

/-- A set of tokens is read field by field, and no field is missing. -/
theorem load_gives {k : Keywords} {n : Node} (h : k.content.heldBy n = true) (depth : Nat) :
    (Keywords.load (depth + 1) n).Gives k := by
  obtain ⟨m, rfl, hentries⟩ := Content.exists_of_heldBy_mapping h
  unfold inOrder at hentries
  rw [List.map_map] at hentries
  apply (Load.entries_gives depth m).bind
  -- Every role has a token now, the latest one first.
  have htokens := @foldlM_loadToken_gives k Role.all m hentries [] (by decide) (by simp)
  apply htokens.bind
  exact .pure _

end Keywords

/-- The sets that are written are registered once more when they are read. -/
theorem KeywordRegistry.load_gives {r : KeywordRegistry} {n : Node}
    (h : r.content.heldBy n = true) (depth : Nat) :
    (KeywordRegistry.load (depth + 2) n).Gives (ofList r.entries) := by
  obtain ⟨m, rfl, hentries⟩ := Content.exists_of_heldBy_mapping h
  have hsets (k : Keywords) (v : Node) (hv : k.content.heldBy v = true) :
      (Keywords.load (depth + 1) v).Gives (id k) :=
    Keywords.load_gives hv depth
  apply (Load.entries_gives (depth + 1) m).bind
  apply (Load.table_gives hsets hentries).bind
  -- Before they are registered no set takes the place of another one; there it may happen.
  show (pure (ofList (Dictionary.ofList (r.entries.map id)).entries) : Load _).Gives _
  rw [List.map_id, Dictionary.ofList_entries]
  exact .pure _

/-! ## §3 Remap pairs -/

/-- Pairs are read in the order in which they are written. -/
theorem RemapTable.load_gives {t : RemapTable} {n : Node}
    (h : (Content.mapping t.contents).heldBy n = true) (depth : Nat) :
    (RemapTable.load (depth + 1) n).Gives t := by
  obtain ⟨m, rfl, hentries⟩ := Content.exists_of_heldBy_mapping h
  have htexts (u : Text) (v : Node) (hv : (Content.text u).heldBy v = true) :
      (Load.text v).Gives (id u) :=
    Load.text_gives (by simpa [Content.heldBy] using hv)
  apply (Load.entries_gives depth m).bind
  apply (Load.table_gives htexts hentries).bind
  show (pure (ofList (t.entries.map id)) : Load _).Gives _
  rw [List.map_id, ofList_entries]
  exact .pure _

/-! ## §4 Settings -/

namespace SettingsFile

theorem Field.named?_name (field : Field) : named? field.name = some field := by
  cases field <;> decide

/-- A field that has not been seen is read before those behind it. -/
theorem loadFields_cons_gives {depth : Nat} {seen : List Field} {file next last : SettingsFile}
    {field : Field} {k v : Node} {l : List (Node × Node)} (hk : k.saysText field.name = true)
    (hnew : field ∉ seen) (hfield : (loadField file depth v field).Gives next)
    (hrest : (loadFields depth (field :: seen) next l).Gives last) :
    (loadFields depth seen file ((k, v) :: l)).Gives last := by
  unfold loadFields
  apply (Load.text_gives hk).bind
  rw [Field.named?_name]
  show Load.Gives (if field ∈ seen then _ else _) _
  rw [if_neg hnew]
  exact hfield.bind hrest

/-- The tables of settings are read into a file, whatever else it says. -/
theorem loadFields_tables_gives {s : Settings} {m : List (Node × Node)}
    (h : Content.HeldInTurn [("vars".toList, s.vars.content),
      ("keywords".toList, s.keywords.content), ("remap".toList, .mapping s.remap.contents)] m)
    {seen : List Field} (hseen : ∀ field ∈ [Field.vars, Field.keywords, Field.remap], field ∉ seen)
    (depth : Nat) (base : Option Text) (settings : Settings) :
    (loadFields (depth + 2) seen ⟨base, settings⟩ m).Gives
      ⟨base, settings.removeComments, s.vars, KeywordRegistry.ofList s.keywords.entries,
        s.remap⟩ := by
  obtain ⟨hvars, hkeywords, hremap⟩ : Field.vars ∉ seen ∧ Field.keywords ∉ seen ∧
      Field.remap ∉ seen := by
    simpa using hseen
  cases h with
  | cons hheadVars h =>
  cases h with
  | cons hheadKeywords h =>
  cases h with
  | cons hheadRemap h =>
  cases h with
  | nil =>
    have hnameVars : Node.saysText Field.vars.name _ = true := hheadVars.1
    have hnameKeywords : Node.saysText Field.keywords.name _ = true := hheadKeywords.1
    have hnameRemap : Node.saysText Field.remap.name _ = true := hheadRemap.1
    apply loadFields_cons_gives hnameVars hvars
      ((Variables.load_gives hheadVars.2 (depth + 1)).bind (.pure _))
    apply loadFields_cons_gives hnameKeywords (by simp [hkeywords])
      ((KeywordRegistry.load_gives hheadKeywords.2 depth).bind (.pure _))
    apply loadFields_cons_gives hnameRemap (by simp [hremap])
      ((RemapTable.load_gives hheadRemap.2 (depth + 1)).bind (.pure _))
    exact .pure _

/-- What holds settings is read as these, with their keyword sets registered once more. -/
theorem loadRoot_gives {s : Settings} {n : Node}
    (h : (Content.mapping s.content).heldBy n = true) :
    (loadRoot (some n)).Gives
      ⟨none, { s with keywords := KeywordRegistry.ofList s.keywords.entries }⟩ := by
  obtain ⟨m, rfl, hentries⟩ := Content.exists_of_heldBy_mapping h
  obtain ⟨removeComments, vars, keywords, remap⟩ := s
  -- The root uses up one of the 128 levels, and every table two at most.
  apply (Load.entries_gives 127 m).bind
  cases removeComments with
  | none => exact loadFields_tables_gives hentries (by simp) 125 none .standard
  | some b =>
    cases hentries with
    | cons hhead htables =>
      have hname : Node.saysText Field.removeComments.name _ = true := hhead.1
      apply loadFields_cons_gives hname (by simp)
        ((Load.bool?_gives hhead.2).bind (.pure _))
      exact loadFields_tables_gives htables (by simp) 125 none _

end SettingsFile

namespace Settings

/-- What is loaded from the document that is printed for settings: all of it as it was, but the
keyword sets registered once more. -/
theorem load_print {s : Settings} (h : Content.survives s.content = true) :
    SettingsFile.load s.print =
      .ok ⟨none, { s with keywords := KeywordRegistry.ofList s.keywords.entries }⟩ := by
  unfold Content.survives at h
  split at h
  · next d hdocument =>
    obtain ⟨n, hroot, hheld⟩ : ∃ n, d.root = some n ∧
        (Content.mapping s.content).heldBy n = true := by
      simpa [Option.any_eq_true] using h
    have hload : Yaml.loadDocument SettingsFile.loadRoot d =
        .ok ⟨none, { s with keywords := KeywordRegistry.ofList s.keywords.entries }⟩ := by
      unfold Yaml.loadDocument
      rw [hroot, SettingsFile.loadRoot_gives hheld d _]
      rfl
    unfold SettingsFile.load Yaml.load Settings.print
    rw [hdocument]
    show Yaml.loadDocument _ d >>= _ = _
    rw [hload]
    rfl
  · cases h

/-- Printed settings come back as they were if their extensions are left as they are when they are
registered once more, and only then. -/
theorem load_print_eq_iff {s : Settings} (h : Content.survives s.content = true) :
    SettingsFile.load s.print = .ok ⟨none, s⟩ ↔
      ∀ e ∈ s.keywords.entries, KeywordRegistry.IsNormal e.1 := by
  rw [load_print h, ← KeywordRegistry.ofList_entries_eq_iff]
  obtain ⟨removeComments, vars, keywords, remap⟩ := s
  simp

/-! ## §5 The settings of a run -/

/-- **Printed settings come back as they were.**  Whatever files the settings of a run come from,
and whatever the command line changes in them: if the document that is printed for them is read as
it was written, it loads as the same settings, exactly if no extension has been registered with
blank at its start. -/
theorem load_print_apply_eq_iff {fs : FileSystem} {home : Path} {given : Option Path}
    {s : Settings} (hload : Settings.load fs home given = .ok s) (o : CommandLine.Overrides)
    (h : Content.survives (o.apply s).content = true) :
    SettingsFile.load (o.apply s).print = .ok ⟨none, o.apply s⟩ ↔
      ∀ e ∈ s.keywords.entries, ∀ c, e.1.head? = some c → Text.isBlank c = false := by
  rw [load_print_eq_iff h]
  apply forall₂_congr
  intro e he
  obtain ⟨written, hwritten⟩ := isRegistered_of_load hload e he
  rw [← hwritten]
  exact KeywordRegistry.isNormal_normalExtension_iff

theorem exists_ok_of_any {ε α : Type} {result : Except ε α} {p : α → Bool}
    (h : result.toOption.any p = true) : ∃ a, result = .ok a ∧ p a = true := by
  cases result with
  | error e => cases h
  | ok a => exact ⟨a, rfl, h⟩

/-- The file that is asked for. -/
def askedFor : Path := .ofText "p.yaml".toList

/-- A file and its base: with a number for a value, and an extension in capital letters behind
a dot. -/
def chainedFiles : FileSystem :=
  ⟨.ofList [(["base.yaml".toList], .file (FileSystem.bytesOf (Text.ofString
      ("vars:\n  mc: 1204\nkeywords:\n  .JSON: \x7bif: '#if', elseif: '#elseif', "
        ++ "else: '#else', endif: '#endif', eval: '#$$'\x7d\n")))),
    (["p.yaml".toList], .file (FileSystem.bytesOf (Text.ofString
      "extends: base.yaml\nvars:\n  name: it's\nremap:\n  a+: b\n")))], []⟩

/-- Values that look like something else than texts, and an empty replacement. -/
def changes : CommandLine.Overrides :=
  ⟨[("fabric".toList, "true".toList), ("pad".toList, "007".toList)], [("x y".toList, [])], true⟩

theorem load_print_apply_chainedFiles :
    ∃ s, Settings.load chainedFiles .here (some askedFor) = .ok s ∧
      Content.survives (changes.apply s).content = true ∧
      s.keywords.entries.map Prod.fst = ["json".toList] ∧
      SettingsFile.load (changes.apply s).print = .ok ⟨none, changes.apply s⟩ := by
  have hcheck : (Settings.load chainedFiles .here (some askedFor)).toOption.any (fun s =>
      Content.survives (changes.apply s).content
        && s.keywords.entries.map Prod.fst == ["json".toList]) = true := by
    unfold Settings.load Content.survives SettingsFile.load Yaml.load Yaml.firstDocument?
      Yaml.tokens
    rw [Yaml.TokenReader.readAll_eq_readWithin]
    decide +kernel
  obtain ⟨s, hload, hs⟩ := exists_ok_of_any hcheck
  obtain ⟨hsurvives, hkeys⟩ := Bool.and_eq_true_iff.mp hs
  have hkeys : s.keywords.entries.map Prod.fst = ["json".toList] := beq_iff_eq.mp hkeys
  refine ⟨s, hload, hsurvives, hkeys, (load_print_apply_eq_iff hload changes hsurvives).mpr ?_⟩
  intro e he c hc
  have hkey : e.1 ∈ s.keywords.entries.map Prod.fst := List.mem_map_of_mem he
  rw [hkeys, List.mem_singleton] at hkey
  rw [hkey] at hc
  obtain rfl : 'j' = c := Option.some.inj hc
  decide

/-- A file with an extension that has blank behind its dot. -/
def blankBehindDot : FileSystem :=
  ⟨.ofList [(["p.yaml".toList], .file (FileSystem.bytesOf (Text.ofString
      ("keywords:\n  '. json': \x7bif: '#if', elseif: '#elseif', else: '#else', "
        ++ "endif: '#endif', eval: '#$$'\x7d\n"))))], []⟩

/-- What is dropped at the start of an extension can leave blank there, which is gone when the
printed settings are read. -/
theorem not_load_print_blankBehindDot :
    ∃ s, Settings.load blankBehindDot .here (some askedFor) = .ok s ∧
      Content.survives s.content = true ∧ SettingsFile.load s.print ≠ .ok ⟨none, s⟩ := by
  have hcheck : (Settings.load blankBehindDot .here (some askedFor)).toOption.any (fun s =>
      Content.survives s.content
        && s.keywords.entries.any fun e => e.1 == " json".toList) = true := by
    unfold Settings.load Content.survives SettingsFile.load Yaml.load Yaml.firstDocument?
      Yaml.tokens
    rw [Yaml.TokenReader.readAll_eq_readWithin]
    decide +kernel
  obtain ⟨s, hload, hs⟩ := exists_ok_of_any hcheck
  obtain ⟨hsurvives, hkey⟩ := Bool.and_eq_true_iff.mp hs
  obtain ⟨e, he, hname⟩ := List.any_eq_true.mp hkey
  refine ⟨s, hload, hsurvives, ?_⟩
  intro hback
  have htrimmed := ((load_print_eq_iff hsurvives).mp hback e he).trimmed
  rw [beq_iff_eq.mp hname] at htrimmed
  exact absurd htrimmed (by decide)

end Settings

end CommentSwitch
