import CommentSwitch.Proofs.Keywords.Extensions
import CommentSwitch.Proofs.Keywords.Validation
import CommentSwitch.Proofs.Text.Offsets
import Mathlib.Data.List.MinMax

/-!
# Looking up the keywords of a file

A file has several extensions if dots stand in its name, and each of them ends the next longer one.
So there is never more than one longest among those that are registered, and it makes no difference
in which order sets were registered, or are gone through, unless they share an extension: there
the latest counts.

- `KeywordRegistry.HasExtension`: the extensions of a file name
- `KeywordRegistry.History`: how a registry has come about
- `KeywordRegistry.forFile_of_history`: the keywords of a file
-/

namespace CommentSwitch

namespace KeywordRegistry

/-! ## §1 Extensions of a file name -/

/-- A file name has an extension if it ends with it behind a dot, and does not start with the
dot. -/
def HasExtension (name extension : Text) : Prop :=
  ∃ stem, stem ≠ [] ∧ name = stem ++ '.' :: extension

section Extensions

variable {name extension other : Text}

theorem mem_afterDots_iff : extension ∈ afterDots name ↔ ('.' :: extension) <:+ name := by
  induction name with
  | nil => simp [afterDots]
  | cons c rest ih =>
    rw [List.suffix_cons_iff, ← ih, afterDots]
    split
    · next hdot => simp [hdot]
    · next hdot =>
      have hne : ¬ ('.' :: extension = c :: rest) := by
        intro heq
        exact hdot (List.cons.inj heq).1.symm
      simp [hne]

/-- The extensions of a file name are those that it is cut into. -/
theorem mem_extensions_iff : extension ∈ extensions name ↔ HasExtension name extension := by
  unfold extensions
  rw [mem_afterDots_iff]
  cases name with
  | nil => simp [HasExtension]
  | cons c rest =>
    constructor
    · rintro ⟨stem, hstem⟩
      exact ⟨c :: stem, List.cons_ne_nil c stem, congrArg (c :: ·) hstem.symm⟩
    · rintro ⟨stem, hne, heq⟩
      obtain ⟨d, stem, rfl⟩ := List.exists_cons_of_ne_nil hne
      exact ⟨stem, (List.cons.inj heq).2.symm⟩

instance (name extension : Text) : Decidable (HasExtension name extension) :=
  decidable_of_iff ((extensions name).contains extension = true)
    (List.contains_iff_mem.trans mem_extensions_iff)

theorem HasExtension.suffix (h : HasExtension name extension) : extension <:+ name := by
  obtain ⟨stem, -, rfl⟩ := h
  exact ⟨stem ++ ['.'], by simp⟩

/-- No two extensions of a file name are equally long. -/
theorem HasExtension.eq_of_byteLength_eq (h : HasExtension name extension)
    (h' : HasExtension name other)
    (hlength : Text.byteLength extension = Text.byteLength other) : extension = other :=
  Text.eq_of_suffix_of_byteLength_le
    (Text.suffix_of_byteLength_le h.suffix h'.suffix hlength.le) hlength.ge

/-- Extensions come in order, each at the end of those before it. -/
theorem pairwise_afterDots (t : Text) : (afterDots t).Pairwise fun a b => b <:+ a := by
  induction t with
  | nil => exact .nil
  | cons c rest ih =>
    rw [afterDots]
    split
    · refine List.pairwise_cons.mpr ⟨?_, ih⟩
      intro extension hmem
      exact (List.suffix_cons '.' extension).trans (mem_afterDots_iff.mp hmem)
    · exact ih

end Extensions

/-! ## §2 The longest extension -/

/-- An extension of a file name that is at least as long as all those among some sets that the
name has. -/
structure IsLongest (name : Text) (sets : List (Text × Keywords)) (extension : Text) : Prop where
  has : HasExtension name extension
  longest : ∀ e ∈ sets, HasExtension name e.1 → Text.byteLength e.1 ≤ Text.byteLength extension

/-- The set with the longest extension of a file name, as it is found by going through sets. -/
def longest? (name : Text) (sets : List (Text × Keywords)) : Option (Text × Keywords) :=
  (sets.filter fun e => HasExtension name e.1).argmax fun e => Text.byteLength e.1

section Longest

variable {r : KeywordRegistry} {name : Text} {sets : List (Text × Keywords)}

theorem isLongest_of_longest? {e : Text × Keywords} (h : longest? name sets = some e) :
    e ∈ sets ∧ IsLongest name sets e.1 := by
  obtain ⟨hmem, hhas⟩ := List.mem_filter.mp (List.argmax_mem h)
  refine ⟨hmem, of_decide_eq_true hhas, ?_⟩
  intro e' hmem' hhas'
  have hfilter : e' ∈ sets.filter fun e => HasExtension name e.1 :=
    List.mem_filter.mpr ⟨hmem', decide_eq_true hhas'⟩
  exact List.le_of_mem_argmax (f := fun e : Text × Keywords => Text.byteLength e.1) hfilter h

theorem not_hasExtension_of_longest? (h : longest? name sets = none) :
    ∀ e ∈ sets, ¬ HasExtension name e.1 := by
  have hfilter := List.filter_eq_nil_iff.mp (List.argmax_eq_none.mp h)
  intro e hmem hhas
  exact hfilter e hmem (decide_eq_true hhas)

/-- The first registered extension that is come across is the longest one. -/
theorem findSome?_extensions_of_isLongest {e : Text × Keywords} (he : e ∈ r.entries)
    (h : IsLongest name r.entries e.1) : (extensions name).findSome? r.get? = some e.2 := by
  have hget : r.get? e.1 = some e.2 := Dictionary.get?_eq_some_iff.mpr he
  have hmem : e.1 ∈ extensions name := mem_extensions_iff.mpr h.has
  cases hfound : (extensions name).findSome? r.get? with
  | none =>
    rw [List.findSome?_eq_none_iff.mp hfound e.1 hmem] at hget
    cases hget
  | some k =>
    obtain ⟨before, first, after, hsplit, hfirst, hbefore⟩ := List.findSome?_eq_some_iff.mp hfound
    have hpairs : (extensions name).Pairwise fun a b => b <:+ a := pairwise_afterDots _
    rw [hsplit] at hpairs hmem
    have hhas : HasExtension name first := by
      apply mem_extensions_iff.mp
      rw [hsplit]
      simp
    -- Nothing in front of it is registered, and what is behind it is not longer.
    have hsuffix : e.1 <:+ first := by
      rcases List.mem_append.mp hmem with hmem | hmem
      · rw [hbefore e.1 hmem] at hget
        cases hget
      · rcases List.mem_cons.mp hmem with heq | hmem
        · exact heq ▸ List.suffix_refl first
        · exact (List.pairwise_cons.mp (List.pairwise_append.mp hpairs).2.1).1 e.1 hmem
    have hle := h.longest (first, k) (Dictionary.get?_eq_some_iff.mp hfirst) hhas
    rw [Text.eq_of_suffix_of_byteLength_le hsuffix hle, hfirst] at hget
    exact hget

theorem forFile_of_isLongest {e : Text × Keywords} (he : e ∈ r.entries)
    (h : IsLongest (normalName name) r.entries e.1) : r.forFile (some name) = e.2 := by
  show ((extensions (normalName name)).findSome? r.get?).getD _ = _
  rw [findSome?_extensions_of_isLongest he h, Option.getD_some]

theorem forFile_of_not_hasExtension (h : ∀ e ∈ r.entries, ¬ HasExtension (normalName name) e.1) :
    r.forFile (some name) = .standard := by
  have hnone : (extensions (normalName name)).findSome? r.get? = none := by
    apply List.findSome?_eq_none_iff.mpr
    intro extension hmem
    apply Option.eq_none_iff_forall_ne_some.mpr
    intro k hget
    exact h (extension, k) (Dictionary.get?_eq_some_iff.mp hget) (mem_extensions_iff.mp hmem)
  show ((extensions (normalName name)).findSome? r.get?).getD _ = _
  rw [hnone, Option.getD_none]

/-- It makes no difference in which order the sets of a registry are gone through. -/
theorem longest?_perm (h : sets.Perm r.entries) :
    ((longest? (normalName name) sets).elim Keywords.standard Prod.snd) =
      r.forFile (some name) := by
  cases hfound : longest? (normalName name) sets with
  | none =>
    symm
    apply forFile_of_not_hasExtension
    intro e he
    exact not_hasExtension_of_longest? hfound e (h.mem_iff.mpr he)
  | some e =>
    obtain ⟨hmem, hhas, hlongest⟩ := isLongest_of_longest? hfound
    symm
    apply forFile_of_isLongest (h.mem_iff.mp hmem)
    exact ⟨hhas, fun e' he' => hlongest e' (h.mem_iff.mpr he')⟩

end Longest

/-! ## §3 Histories -/

/-- How a registry has come about. -/
inductive History
  /-- Nothing has been registered. -/
  | empty
  | register (before : History) (extension : Text) (k : Keywords)
  /-- A registry with a history of its own has been laid over another one. -/
  | extend (before other : History)

/-- The registry that a history leads to. -/
def History.registry : History → KeywordRegistry
  | empty => Dictionary.empty
  | register before extension k => before.registry.register extension k
  | extend before other => Dictionary.extend before.registry other.registry

/-- All sets that have been registered, in the order in which that was done. -/
def History.sets : History → List (Text × Keywords)
  | empty => []
  | register before extension k => before.sets ++ [(normalExtension extension, k)]
  | extend before other => before.sets ++ other.sets

/-- The set that was registered last under an extension. -/
def latest? (sets : List (Text × Keywords)) (extension : Text) : Option Keywords :=
  (sets.filter fun e => e.1 = extension).getLast?.map Prod.snd

theorem lookup_eq_head?_filter {κ β : Type} [DecidableEq κ] (l : List (κ × β)) (k : κ) :
    l.lookup k = (l.filter fun e => e.1 = k).head?.map Prod.snd := by
  induction l with
  | nil => rfl
  | cons e rest ih =>
    obtain ⟨a, v⟩ := e
    by_cases h : k = a
    · simp [h]
    · rw [lookup_cons_of_ne h, ih, List.filter_cons_of_neg]
      simpa using fun heq => h heq.symm

namespace History

variable {h : History}

/-- A registry is made of all sets that have been registered. -/
theorem registry_eq (h : History) : h.registry = Dictionary.ofList h.sets := by
  induction h with
  | empty => rfl
  | register before extension k ih =>
    rw [registry, ih, sets, Dictionary.ofList_append]
    rfl
  | extend before other ih ih' =>
    -- What the other registry holds is put in set by set.
    rw [registry, ih, ih', sets, Dictionary.ofList_append, Dictionary.extend_ofList]

theorem get?_registry (h : History) (extension : Text) :
    h.registry.get? extension = latest? h.sets extension := by
  rw [registry_eq, Dictionary.ofList, Dictionary.get?_insertAll, Dictionary.get?_empty,
    Option.or_none, lookup_eq_head?_filter, List.filter_reverse, List.head?_reverse, latest?]

theorem mem_sets_of_mem_entries {e : Text × Keywords} (he : e ∈ h.registry.entries) :
    ∃ e' ∈ h.sets, e'.1 = e.1 := by
  have hkey : e.1 ∈ h.registry.entries.map Prod.fst := List.mem_map_of_mem he
  rw [registry_eq, Dictionary.mem_keys_ofList] at hkey
  exact List.mem_map.mp hkey

theorem exists_mem_entries {e : Text × Keywords} (he : e ∈ h.sets) :
    ∃ k, (e.1, k) ∈ h.registry.entries := by
  have hkey : e.1 ∈ h.registry.entries.map Prod.fst := by
    rw [registry_eq, Dictionary.mem_keys_ofList]
    exact List.mem_map_of_mem he
  obtain ⟨e', he', heq⟩ := List.mem_map.mp hkey
  exact ⟨e'.2, heq ▸ he'⟩

/-- The keywords of a file are the latest set of the longest extension, or else the standard
ones. -/
theorem forFile_cases (h : History) (name : Text) :
    (∃ extension k, IsLongest (normalName name) h.sets extension ∧
      latest? h.sets extension = some k ∧ h.registry.forFile (some name) = k) ∨
    ((∀ e ∈ h.sets, ¬ HasExtension (normalName name) e.1) ∧
      h.registry.forFile (some name) = .standard) := by
  cases hfound : longest? (normalName name) h.sets with
  | none =>
    have hnot := not_hasExtension_of_longest? hfound
    refine .inr ⟨hnot, forFile_of_not_hasExtension ?_⟩
    intro e he
    obtain ⟨e', he', heq⟩ := mem_sets_of_mem_entries he
    exact heq ▸ hnot e' he'
  | some e =>
    obtain ⟨hmem, hlongest⟩ := isLongest_of_longest? hfound
    obtain ⟨k, hk⟩ := exists_mem_entries hmem
    -- The registry holds only the latest set, but under every extension of the history.
    refine .inl ⟨e.1, k, hlongest, ?_, forFile_of_isLongest hk ⟨hlongest.has, ?_⟩⟩
    · rw [← get?_registry]
      exact Dictionary.get?_eq_some_iff.mpr hk
    · intro e' he'
      obtain ⟨e'', he'', heq⟩ := mem_sets_of_mem_entries he'
      exact heq ▸ hlongest.longest e'' he''

/-- Only the order of sets with the same extension counts. -/
theorem registry_congr {h' : History}
    (hsame : ∀ extension, (h'.sets.filter fun e => e.1 = extension) =
      h.sets.filter fun e => e.1 = extension) : h'.registry = h.registry := by
  apply Dictionary.ext_get?
  intro extension
  rw [get?_registry, get?_registry, latest?, latest?, hsame]

end History

/-- A valid registry finds valid keywords for every file. -/
theorem validate_forFile {r : KeywordRegistry} (hvalid : r.validate = .ok ())
    (file : Option Text) : (r.forFile file).validate = .ok () := by
  cases file with
  | none => exact Keywords.validate_standard
  | some name =>
    show (((extensions (normalName name)).findSome? r.get?).getD _).validate = _
    cases hfound : (extensions (normalName name)).findSome? r.get? with
    | none => exact Keywords.validate_standard
    | some k =>
      obtain ⟨extension, -, hget⟩ := List.exists_of_findSome?_eq_some hfound
      exact validate_of_mem hvalid (Dictionary.get?_eq_some_iff.mp hget)

/-! ## §4 The keywords of a file -/

/-- Tokens behind a hash. -/
def hashTokens : Keywords where
  ifToken := Text.ofString "#if"
  elseifToken := Text.ofString "#elseif"
  elseToken := Text.ofString "#else"
  endifToken := Text.ofString "#endif"
  evalToken := Text.ofString "#$$"

/-- A registry in which the set for one of two nested extensions has been replaced. -/
def nestedExtensions : History :=
  .extend (.register (.register .empty "ts".toList hashTokens) ".D.ts".toList hashTokens)
    (.register .empty ".TS".toList .standard)

/-- The same sets, the longer extension last. -/
def nestedExtensionsReordered : History :=
  .register (.register (.register .empty "TS".toList hashTokens) "ts".toList .standard)
    "d.ts".toList hashTokens

end KeywordRegistry

end CommentSwitch
