import CommentSwitch.Pattern.Matcher
import CommentSwitch.Proofs.Settings.Tables
import CommentSwitch.Remap.Remapper
import CommentSwitch.Settings.Loading
import Mathlib.Data.List.Forall2
import Mathlib.Data.List.Induction

/-!
# Histories of a remap table

Whatever has been done to a remap table, it lists every pattern once: at the place where the
pattern was first put in, with the replacement that was put in last.  In this order its pairs are
applied to every line on its own, each to what the one before it has left.

- `RemapTable.Lists`: what a table lists when pairs have been put in one after the other
- `RemapTable.History`: how a table has come about
- `RemapTable.lists_pairs`: a table lists what its history has put in
- `Remapper.readRules_eq_error_iff`: the first pattern that can not be read is named
- `Remapper.remap_extend`: remapping with a table that extends another one
- `Remapper.remap_of_history`: remapping with the table of a history
-/

namespace CommentSwitch

open Yaml (Document Load Node)

/-! ## §1 Loading -/

namespace Yaml

variable {α β : Type} (f : α → β)

theorem Load.run_map (value : Load α) (d : Document) (left : Nat) :
    ((f <$> value).run d).run left = ((value.run d).run left).map fun p => (f p.1, p.2) := by
  show ((value.run d).run left >>= fun p => .ok (f p.1, p.2)) = _
  cases (value.run d).run left <;> rfl

theorem load_map (value : Option Node → Load α) (t : Text) :
    load (fun root => f <$> value root) t = (load value t).map f := by
  unfold load loadDocument
  cases firstDocument? t with
  | none => rfl
  | some found =>
    obtain ⟨d, isLast⟩ := found
    simp only [Load.run_map]
    cases ((value d.root).run d).run (aliasesPerMark * d.size) with
    | error fault => rfl
    | ok p => cases isLast <;> rfl

end Yaml

namespace RemapTable

/-- The pairs at the root of a document. -/
def rootPairs : Option Node → Load (List (Text × Text))
  | none => return []
  | some n => Load.texts Yaml.maxDepth n

/-- A table is loaded by putting in the pairs of a mapping. -/
theorem load_eq_map (depth : Nat) (n : Node) : load depth n = ofList <$> Load.texts depth n := by
  simp only [load, ofEntries, Load.texts, map_bind, bind_pure_comp]

theorem loadRoot_eq_map (root : Option Node) : loadRoot root = ofList <$> rootPairs root := by
  cases root with
  | none => rfl
  | some n => exact load_eq_map Yaml.maxDepth n

/-- What a table is loaded from. -/
inductive Source
  /-- A document that holds the table and nothing else. -/
  | document (text : Text)
  /-- A node of a larger document, at a place where collections may be nested to some depth yet and
  a number of aliases may still be followed. -/
  | node (within : Document) (aliases depth : Nat) (n : Node)

/-- The table that is loaded, if there is one. -/
def Source.table? : Source → Option RemapTable
  | document text => (Yaml.load loadRoot text).toOption
  | node within aliases depth n => (((load depth n).run within).run aliases).toOption.map Prod.fst

/-- The pairs that a source lists, if it can be read. -/
def Source.pairs? : Source → Option (List (Text × Text))
  | document text => (Yaml.load rootPairs text).toOption
  | node within aliases depth n =>
    (((Load.texts depth n).run within).run aliases).toOption.map Prod.fst

theorem Source.table?_eq (s : Source) : s.table? = s.pairs?.map ofList := by
  cases s with
  | document text =>
    have hload : Yaml.load loadRoot text = (Yaml.load rootPairs text).map ofList := by
      rw [← Yaml.load_map, funext loadRoot_eq_map]
    rw [table?, pairs?, hload]
    cases Yaml.load rootPairs text <;> rfl
  | node within aliases depth n =>
    rw [table?, pairs?, load_eq_map, Load.run_map]
    cases ((Load.texts depth n).run within).run aliases <;> rfl

/-! ## §2 Histories -/

/-- How a table has come about. -/
inductive History
  /-- Nothing has been put in. -/
  | empty
  | insert (before : History) (pattern replacement : Text)
  /-- The pairs of a table with a history of its own have been put in. -/
  | extend (before other : History)
  /-- A table has been loaded in place of the one before. -/
  | load (before : History) (source : Source)

/-- The table that a history leads to. -/
def History.table : History → RemapTable
  | empty => RemapTable.empty
  | insert before pattern replacement => before.table.insert pattern replacement
  | extend before other => before.table.extend other.table
  -- If nothing can be loaded the table stays what it is.
  | load before source => source.table?.getD before.table

/-- All pairs that have been put in since a table was last loaded, in the order in which that was
done. -/
def History.pairs : History → List (Text × Text)
  | empty => []
  | insert before pattern replacement => before.pairs ++ [(pattern, replacement)]
  | extend before other => before.pairs ++ other.pairs
  | load before source => source.pairs?.getD before.pairs

theorem ofList_append (pairs more : List (Text × Text)) :
    ofList (pairs ++ more) = (ofList pairs).insertAll more :=
  List.foldl_append

/-- A table is made of all pairs that have been put in. -/
theorem History.table_eq (h : History) : h.table = ofList h.pairs := by
  induction h with
  | empty => rfl
  | insert before pattern replacement ih =>
    rw [table, ih, pairs, ofList_append]
    rfl
  | extend before other ih ih' =>
    -- The other table holds its pairs in the order of their first insertion, so no pattern moves.
    rw [table, ih, ih', pairs, ofList_append, extend_ofList]
  | load before source ih =>
    rw [table, pairs, Source.table?_eq]
    cases source.pairs? with
    | none => exact ih
    | some pairs => rfl

/-! ## §3 What a table lists -/

/-- A table lists what has been put in pair by pair: every pattern once, in the order in which the
patterns first came, each with the replacement with which it came last. -/
structure Lists (t : RemapTable) (pairs : List (Text × Text)) : Prop where
  mem_iff : ∀ p, p ∈ t.patterns ↔ p ∈ pairs.map Prod.fst
  inOrder : t.patterns.Pairwise fun p q =>
    (pairs.map Prod.fst).idxOf p < (pairs.map Prod.fst).idxOf q
  last : ∀ p r, (p, r) ∈ t.entries →
    ∃ before after, pairs = before ++ (p, r) :: after ∧ p ∉ after.map Prod.fst

/-- First appearances come in the order in which they appear. -/
theorem pairwise_eraseDups (l : List Text) :
    l.eraseDups.Pairwise fun p q => l.idxOf p < l.idxOf q := by
  induction l using List.reverseRecOn with
  | nil => exact .nil
  | append_singleton l p ih =>
    have hsame {q : Text} (hq : q ∈ l.eraseDups) : (l ++ [p]).idxOf q = l.idxOf q :=
      List.idxOf_append_of_mem (List.mem_eraseDups.mp hq)
    have hbefore : l.eraseDups.Pairwise fun q q' => (l ++ [p]).idxOf q < (l ++ [p]).idxOf q' := by
      refine ih.imp_of_mem ?_
      intro q q' hq hq' hlt
      rwa [hsame hq, hsame hq']
    rw [eraseDups_concat]
    split
    · exact hbefore
    · next hnew =>
      refine List.pairwise_append.mpr ⟨hbefore, List.pairwise_singleton _ _, ?_⟩
      intro q hq p' hp'
      have hp : p ∉ l := fun hmem => hnew (List.mem_eraseDups.mpr hmem)
      rw [List.mem_singleton.mp hp', hsame hq, List.idxOf_append_of_notMem hp,
        List.idxOf_cons_self]
      exact List.idxOf_lt_length_of_mem (List.mem_eraseDups.mp hq)

/-- The pair that is found from the end is the last one with its pattern. -/
theorem exists_last_of_lookup_reverse {pairs : List (Text × Text)} {p r : Text}
    (h : pairs.reverse.lookup p = some r) :
    ∃ before after, pairs = before ++ (p, r) :: after ∧ p ∉ after.map Prod.fst := by
  obtain ⟨after, before, hsplit, hafter⟩ := List.lookup_eq_some_iff.mp h
  refine ⟨before.reverse, after.reverse, ?_, ?_⟩
  · rw [← List.reverse_reverse pairs, hsplit]
    simp
  · intro hmem
    obtain ⟨e, he, rfl⟩ := List.mem_map.mp hmem
    simpa using hafter e (List.mem_reverse.mp he)

theorem replacement?_of_mem {t : RemapTable} {p r : Text} (h : (p, r) ∈ t.entries) :
    t.replacement? p = some r := by
  obtain ⟨before, after, hsplit⟩ := List.append_of_mem h
  have hdistinct := t.distinct
  rw [hsplit, List.map_append, List.map_cons] at hdistinct
  apply List.lookup_eq_some_iff.mpr
  refine ⟨before, after, hsplit, ?_⟩
  intro e he
  rw [bne_iff_ne]
  rintro rfl
  exact (List.nodup_append.mp hdistinct).2.2 _ (List.mem_map_of_mem he) _ List.mem_cons_self rfl

theorem lists_ofList (pairs : List (Text × Text)) : (ofList pairs).Lists pairs := by
  have hpatterns : (ofList pairs).patterns = (pairs.map Prod.fst).eraseDups :=
    patterns_insertAll empty pairs
  refine ⟨?mem, ?order, ?last⟩
  case mem =>
    intro p
    rw [hpatterns, List.mem_eraseDups]
  case order =>
    rw [hpatterns]
    exact pairwise_eraseDups _
  case last =>
    intro p r hmem
    have hlookup : (ofList pairs).replacement? p = some r := replacement?_of_mem hmem
    rw [ofList, replacement?_insertAll] at hlookup
    exact exists_last_of_lookup_reverse (hlookup ▸ (Option.or_none).symm)

/-- A table lists what its history has put in. -/
theorem lists_pairs (h : History) : h.table.Lists h.pairs := by
  rw [h.table_eq]
  exact lists_ofList h.pairs

/-! ## §4 Tables without a common pattern -/

theorem put_of_not_mem {p : Text} {l : List (Text × Text)} (h : p ∉ l.map Prod.fst) (r : Text) :
    put p r l = l ++ [(p, r)] := by
  induction l with
  | nil => rfl
  | cons e rest ih =>
    obtain ⟨q, s⟩ := e
    rw [List.map_cons, List.mem_cons, not_or] at h
    rw [put, if_neg (Ne.symm h.1), ih h.2, List.cons_append]

theorem entries_insert {t : RemapTable} {p : Text} (h : p ∉ t.patterns) (r : Text) :
    (t.insert p r).entries = t.entries ++ [(p, r)] :=
  put_of_not_mem h r

/-- New pairs come last. -/
theorem entries_insertAll {t : RemapTable} {pairs : List (Text × Text)}
    (hdistinct : (pairs.map Prod.fst).Nodup) (hnew : ∀ p ∈ t.patterns, p ∉ pairs.map Prod.fst) :
    (t.insertAll pairs).entries = t.entries ++ pairs := by
  induction pairs generalizing t with
  | nil => exact (List.append_nil _).symm
  | cons e rest ih =>
    obtain ⟨p, r⟩ := e
    obtain ⟨hp, hrest⟩ := List.nodup_cons.mp hdistinct
    have hfresh : p ∉ t.patterns := fun hmem => hnew p hmem List.mem_cons_self
    have hnext : ∀ q ∈ (t.insert p r).patterns, q ∉ rest.map Prod.fst := by
      intro q hq
      rw [patterns_insert, if_neg hfresh, List.mem_append, List.mem_singleton] at hq
      rcases hq with hq | rfl
      · exact fun hmem => hnew q hq (List.mem_cons_of_mem _ hmem)
      · exact hp
    show ((t.insert p r).insertAll rest).entries = _
    rw [ih hrest hnext, entries_insert hfresh, List.append_assoc, List.singleton_append]

theorem entries_extend {s t : RemapTable} (h : ∀ p ∈ s.patterns, p ∉ t.patterns) :
    (s.extend t).entries = s.entries ++ t.entries :=
  entries_insertAll t.distinct h

end RemapTable

namespace Remapper

variable {ρ : Type} {read? : Text → Option ρ} {replaceAll : ρ → Text → Text → Text}

/-! ## §5 Reading rules -/

/-- The first pattern that can not be read is named. -/
theorem readRules_eq_error_iff {l : List (Text × Text)} {u : UnusablePattern} :
    readRules read? l = .error u ↔
      (l.map Prod.fst).find? (fun p => (read? p).isNone) = some u.pattern := by
  induction l with
  | nil => simp [readRules]
  | cons e rest ih =>
    obtain ⟨pattern, replacement⟩ := e
    rw [readRules, List.map_cons, List.find?_cons]
    cases hread : read? pattern with
    | none =>
      obtain ⟨p⟩ := u
      simp
    | some p =>
      simp only [Option.isNone_some, ← ih]
      cases readRules read? rest <;> simp [bind, Except.bind, pure, Except.pure]

theorem ofTable_eq_error_iff {t : RemapTable} {u : UnusablePattern} :
    ofTable read? t = .error u ↔
      t.patterns.find? (fun p => (read? p).isNone) = some u.pattern := by
  rw [RemapTable.patterns, ← readRules_eq_error_iff, ofTable]
  cases readRules read? t.entries <;> simp [bind, Except.bind, pure, Except.pure]

theorem exists_ofTable_eq_error_iff {t : RemapTable} :
    (∃ u, ofTable read? t = .error u) ↔ ∃ p ∈ t.patterns, read? p = none := by
  constructor
  · rintro ⟨u, hu⟩
    have hfind := ofTable_eq_error_iff.mp hu
    have hnone := List.find?_some hfind
    exact ⟨u.pattern, List.mem_of_find?_eq_some hfind, Option.isNone_iff_eq_none.mp hnone⟩
  · rintro ⟨p, hp, hnone⟩
    have hfound : (t.patterns.find? fun p => (read? p).isNone).isSome = true :=
      List.find?_isSome.mpr ⟨p, hp, Option.isNone_iff_eq_none.mpr hnone⟩
    obtain ⟨first, hfirst⟩ := Option.isSome_iff_exists.mp hfound
    exact ⟨⟨first⟩, ofTable_eq_error_iff.mpr hfirst⟩

theorem readRules_append (l m : List (Text × Text)) :
    readRules read? (l ++ m) = (do
      let rules ← readRules read? l
      let more ← readRules read? m
      return rules ++ more) := by
  induction l with
  | nil =>
    show _ = readRules read? m >>= fun more => .ok more
    cases hm : readRules read? m <;> simp [bind, Except.bind, hm]
  | cons e rest ih =>
    obtain ⟨pattern, replacement⟩ := e
    rw [List.cons_append, readRules, readRules]
    cases read? pattern with
    | none => rfl
    | some p =>
      simp only [ih]
      cases readRules read? rest with
      | error u => rfl
      | ok rules => cases readRules read? m <;> rfl

theorem ofTable_eq_ok_iff {t : RemapTable} {r : Remapper ρ} :
    ofTable read? t = .ok r ↔ readRules read? t.entries = .ok r.rules := by
  obtain ⟨rules⟩ := r
  rw [ofTable]
  cases readRules read? t.entries <;> simp [bind, Except.bind, pure, Except.pure]

/-! ## §6 Remapping lines -/

/-- What becomes of a line when pairs are applied to it in turn, each to what the one before it has
left. -/
inductive ReplacedInTurn (read? : Text → Option ρ) (replaceAll : ρ → Text → Text → Text) :
    List (Text × Text) → Text → Text → Prop
  | nil (line : Text) : ReplacedInTurn read? replaceAll [] line line
  | cons {pattern replacement : Text} {p : ρ} {rest : List (Text × Text)} {line out : Text}
      (hread : read? pattern = some p)
      (hrest : ReplacedInTurn read? replaceAll rest (replaceAll p replacement line) out) :
      ReplacedInTurn read? replaceAll ((pattern, replacement) :: rest) line out

theorem replacedInTurn_of_readRules {l : List (Text × Text)} {rules : List (ρ × Text)}
    (h : readRules read? l = .ok rules) (line : Text) :
    ReplacedInTurn read? replaceAll l line (remapLine replaceAll ⟨rules⟩ line) := by
  induction l generalizing rules line with
  | nil =>
    cases h
    exact .nil line
  | cons e rest ih =>
    obtain ⟨pattern, replacement⟩ := e
    rw [readRules] at h
    cases hread : read? pattern with
    | none =>
      rw [hread] at h
      cases h
    | some p =>
      cases hrest : readRules read? rest with
      | error u =>
        rw [hread, hrest] at h
        cases h
      | ok later =>
        rw [hread, hrest] at h
        cases h
        exact .cons hread (ih hrest _)

/-- Every line is remapped on its own, by the pairs of the table in turn. -/
theorem forall₂_remapLines {t : RemapTable} {r : Remapper ρ} (h : ofTable read? t = .ok r)
    (lines : List Text) :
    List.Forall₂ (ReplacedInTurn read? replaceAll t.entries) lines
      (r.remapLines replaceAll lines) := by
  unfold remapLines
  rw [List.forall₂_map_right_iff, List.forall₂_same]
  exact fun line _ => replacedInTurn_of_readRules (ofTable_eq_ok_iff.mp h) line

theorem remapLine_append (rules more : List (ρ × Text)) (line : Text) :
    remapLine replaceAll ⟨rules ++ more⟩ line =
      remapLine replaceAll ⟨more⟩ (remapLine replaceAll ⟨rules⟩ line) :=
  List.foldl_append

theorem remapLines_append (rules more : List (ρ × Text)) (lines : List Text) :
    remapLines replaceAll ⟨rules ++ more⟩ lines =
      remapLines replaceAll ⟨more⟩ (remapLines replaceAll ⟨rules⟩ lines) := by
  unfold remapLines
  rw [List.map_map]
  exact List.map_congr_left fun line _ => remapLine_append rules more line

variable (read? replaceAll)

/-- Remaps lines with a table, if all its patterns can be read. -/
def remap (t : RemapTable) (lines : List Text) : Except UnusablePattern (List Text) := do
  let r ← ofTable read? t
  return r.remapLines replaceAll lines

/-- To remap with a table that extends another one by other patterns is to remap with one after the
other. -/
theorem remap_extend {s t : RemapTable} (h : ∀ p ∈ s.patterns, p ∉ t.patterns)
    (lines : List Text) :
    remap read? replaceAll (s.extend t) lines =
      remap read? replaceAll s lines >>= remap read? replaceAll t := by
  unfold remap ofTable
  rw [RemapTable.entries_extend h, readRules_append]
  cases readRules read? s.entries with
  | error u => rfl
  | ok rules =>
    cases readRules read? t.entries with
    | error u => rfl
    | ok more =>
      exact congrArg Except.ok (remapLines_append rules more lines)

/-- **Remapping with the table of a history.**  The table lists every pattern once, in the order of
the first insertions, with the replacement inserted last.  It can be used unless one of these
patterns can not be read, of which the first is named.  Then every line is remapped on its own, by
the pairs that are listed, one after the other.  So what extends a table by other patterns acts
behind it. -/
theorem remap_of_history (h : RemapTable.History) :
    h.table.Lists h.pairs ∧
    ((∃ u, ofTable read? h.table = .error u) ↔ ∃ p ∈ h.table.patterns, read? p = none) ∧
    (∀ u, ofTable read? h.table = .error u → ∃ before after,
      h.table.patterns = before ++ u.pattern :: after ∧ read? u.pattern = none ∧
        ∀ p ∈ before, read? p ≠ none) ∧
    (∀ r, ofTable read? h.table = .ok r → ∀ lines,
      List.Forall₂ (ReplacedInTurn read? replaceAll h.table.entries) lines
        (r.remapLines replaceAll lines)) ∧
    ∀ other : RemapTable, (∀ p ∈ h.table.patterns, p ∉ other.patterns) →
      ∀ lines, remap read? replaceAll (h.table.extend other) lines =
        remap read? replaceAll h.table lines >>= remap read? replaceAll other := by
  refine ⟨RemapTable.lists_pairs h, exists_ofTable_eq_error_iff, ?named,
    fun r hr => forall₂_remapLines hr, ?extended⟩
  case named =>
    intro u hu
    obtain ⟨hnone, before, after, hsplit, hbefore⟩ :=
      List.find?_eq_some_iff_append.mp (ofTable_eq_error_iff.mp hu)
    refine ⟨before, after, hsplit, Option.isNone_iff_eq_none.mp hnone, ?_⟩
    intro p hp hread
    simpa [hread] using hbefore p hp
  case extended =>
    intro other hdisjoint lines
    exact remap_extend read? replaceAll hdisjoint lines

/-- A table that is loaded, and in which a replacement is changed afterwards. -/
def renamings : RemapTable.History :=
  .insert (.load (.insert .empty "Z".toList "z".toList)
    (.document "A: x\nB: C\n".toList)) "A".toList "B".toList

/-- A table with another pattern. -/
def marks : RemapTable := .ofList [("C+".toList, "<$0>".toList)]

/-- A table with two patterns that can not be read. -/
def unclosed : RemapTable.History := .insert (.insert renamings "[".toList []) "(".toList []

/-- The pair that was changed acts first, and the marks are set behind both renamings. -/
theorem remap_of_history_renamings :
    renamings.table.Lists
        [("A".toList, "x".toList), ("B".toList, "C".toList), ("A".toList, "B".toList)] ∧
      renamings.table.entries = [("A".toList, "B".toList), ("B".toList, "C".toList)] ∧
      remap Matcher.ofText? Matcher.replaceAll (renamings.table.extend marks) ["xAx".toList] =
        .ok ["x<C>x".toList] ∧
      ∃ before after, unclosed.table.patterns = before ++ "[".toList :: after ∧
        Matcher.ofText? "[".toList = none ∧ ∀ p ∈ before, Matcher.ofText? p ≠ none := by
  have hpairs : renamings.pairs =
      [("A".toList, "x".toList), ("B".toList, "C".toList), ("A".toList, "B".toList)] := by
    decide +kernel
  have hunclosed : ofTable Matcher.ofText? unclosed.table = .error ⟨"[".toList⟩ :=
    ofTable_eq_error_iff.mpr (by decide +kernel)
  obtain ⟨hlists, -, -, -, hextended⟩ :=
    remap_of_history Matcher.ofText? Matcher.replaceAll renamings
  have hnamed := (remap_of_history Matcher.ofText? Matcher.replaceAll unclosed).2.2.1
  refine ⟨hpairs ▸ hlists, by decide +kernel, ?_, hnamed _ hunclosed⟩
  rw [hextended marks (by decide +kernel)]
  decide +kernel

end Remapper

end CommentSwitch
