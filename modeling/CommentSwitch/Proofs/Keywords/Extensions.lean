import CommentSwitch.Keywords.Registry
import CommentSwitch.Proofs.Settings.Tables
import CommentSwitch.Proofs.Text.LowerForms
import CommentSwitch.Proofs.Text.Trimming
import Mathlib.Data.Finset.Max

/-!
# Registered extensions

Extensions are registered in the form that trimming, dropping dots and lower-casing lead to.  That
form is not always one that these leave alone: what is trimmed before the dots are dropped can have
blank behind them.  So a registry that is registered once more need not stay what it is.

- `KeywordRegistry.IsNormal`: extensions that are left as they are
- `KeywordRegistry.isNormal_normalExtension_iff`: what users write is registered as such, unless
  it has blank behind its dots
- `KeywordRegistry.ofList_entries_eq_iff`: registries that stay what they are
-/

namespace CommentSwitch

/-! ## §1 Keys -/

section Keys

variable {κ β : Type} [LT κ] [DecidableLT κ] [DecidableEq κ]
  [Trans (α := κ) (· < ·) (· < ·) (· < ·)] [Std.Trichotomous (α := κ) (· < ·)]

/-- The keys of a dictionary are those of the entries that it is made of. -/
theorem Dictionary.mem_keys_ofList {l : List (κ × β)} {k : κ} :
    k ∈ (ofList l).entries.map Prod.fst ↔ k ∈ l.map Prod.fst := by
  have hkeys (m : List (κ × β)) : k ∈ m.map Prod.fst ↔ m.lookup k ≠ none := by
    constructor
    · intro hmem hnone
      obtain ⟨e, he, rfl⟩ := List.mem_map.mp hmem
      simpa using List.lookup_eq_none_iff.mp hnone e he
    · intro hfound
      by_contra hnot
      exact hfound (lookup_eq_none hnot)
  rw [hkeys, hkeys]
  show (ofList l).get? k ≠ none ↔ _
  rw [ofList, get?_insertAll, get?_empty, Option.or_none, ← hkeys, ← hkeys, List.map_reverse,
    List.mem_reverse]

end Keys

namespace KeywordRegistry

/-! ## §2 Normal extensions -/

/-- An extension that is registered as it is: nothing is trimmed, no dot is dropped, and no
character has another lower-case form. -/
structure IsNormal (extension : Text) : Prop where
  trimmed : Text.trim extension = extension
  undotted : extension.head? ≠ some '.'
  lower : Text.lower extension = extension

variable {extension : Text}

/-- In lower case there is nothing to do but to leave characters out. -/
theorem normalExtension_of_isLower (hlower : ∀ c ∈ extension, Text.IsLower c) :
    normalExtension extension = (Text.trim extension).dropWhile (· == '.') := by
  apply Text.lower_eq_self_iff.mpr
  intro c hc
  have htrim : c ∈ Text.trim extension := (List.dropWhile_sublist _).subset hc
  exact hlower c ((Text.trim_sublist extension).subset htrim)

theorem normalExtension_sublist (hlower : ∀ c ∈ extension, Text.IsLower c) :
    (normalExtension extension).Sublist extension := by
  rw [normalExtension_of_isLower hlower]
  exact (List.dropWhile_sublist _).trans (Text.trim_sublist extension)

theorem isLower_of_mem_normalExtension {c : Char} (hc : c ∈ normalExtension extension) :
    Text.IsLower c :=
  Text.isLower_of_mem_lower hc

/-- The normal extensions are those that registration leaves as they are. -/
theorem normalExtension_eq_self_iff :
    normalExtension extension = extension ↔ IsNormal extension := by
  constructor
  · intro h
    have hlower : ∀ c ∈ extension, Text.IsLower c := by
      intro c hc
      rw [← h] at hc
      exact isLower_of_mem_normalExtension hc
    rw [normalExtension_of_isLower hlower] at h
    have htrim : Text.trim extension = extension := by
      apply (Text.trim_sublist extension).antisymm
      conv_lhs => rw [← h]
      exact List.dropWhile_sublist _
    refine ⟨htrim, ?_, Text.lower_eq_self_iff.mpr hlower⟩
    intro hdot
    have hundotted := List.head?_dropWhile_not (· == '.') (Text.trim extension)
    rw [h, hdot] at hundotted
    simp at hundotted
  · intro h
    unfold normalExtension
    rw [h.trimmed, List.dropWhile_beq_eq_self_of_head?_ne h.undotted, h.lower]

/-- Lower-casing makes no dots, so none is at the start. -/
theorem head?_normalExtension_ne_dot : (normalExtension extension).head? ≠ some '.' := by
  have hdropped := List.head?_dropWhile_not (· == '.') (Text.trim extension)
  unfold normalExtension
  cases hrest : (Text.trim extension).dropWhile (· == '.') with
  | nil => simp [Text.lower, Text.lowerAfter]
  | cons c rest =>
    rw [hrest] at hdropped
    obtain ⟨x, hx, -, hform⟩ := Text.head?_lower c rest
    rw [hx]
    intro hdot
    obtain rfl : x = '.' := Option.some.inj hdot
    rcases hform with rfl | hink
    · simp at hdropped
    · exact hink.2 rfl

/-- Dropping dots leaves the end of what has been trimmed, and lower-casing makes no blank. -/
theorem isBlank_of_getLast?_normalExtension {x : Char}
    (hx : (normalExtension extension).getLast? = some x) : Text.isBlank x = false := by
  unfold normalExtension at hx
  cases hlast : ((Text.trim extension).dropWhile (· == '.')).getLast? with
  | none =>
    rw [List.getLast?_eq_none_iff.mp hlast] at hx
    cases hx
  | some c =>
    obtain ⟨before, hbefore⟩ := List.dropWhile_suffix (l := Text.trim extension) (· == '.')
    have htrim : (Text.trim extension).getLast? = some c := by
      rw [← hbefore, List.getLast?_append, hlast]
      rfl
    obtain ⟨y, hy, -, hform⟩ := Text.getLast?_lower hlast
    obtain rfl : y = x := by
      rw [hy] at hx
      exact Option.some.inj hx
    rcases hform with rfl | hink
    · exact Text.isBlank_of_getLast?_trim htrim
    · exact hink.1

/-- What a user writes is registered in a form that is left as it is, unless blank is left at its
start: it then stood behind dots. -/
theorem isNormal_normalExtension_iff :
    IsNormal (normalExtension extension) ↔
      ∀ c, (normalExtension extension).head? = some c → Text.isBlank c = false := by
  constructor
  · intro h c hc
    have hhead := List.head?_dropWhile_not Text.isBlank (normalExtension extension)
    have hstart : (normalExtension extension).dropWhile Text.isBlank = normalExtension extension :=
      Text.trimStart_eq_self h.trimmed
    rw [hstart, hc] at hhead
    exact hhead
  · intro hhead
    refine ⟨?_, head?_normalExtension_ne_dot, ?_⟩
    · apply Text.trim_eq_self_of_ends hhead
      intro x hx
      exact isBlank_of_getLast?_normalExtension hx
    · apply Text.lower_eq_self_iff.mpr
      intro c hc
      exact isLower_of_mem_normalExtension hc

/-! ## §3 Registering anew -/

/-- If every key comes from one of the keys by leaving characters out, none are left out: of the
keys that lose characters the longest could come from none. -/
theorem eq_self_of_onto {keys : List Text} {f : Text → Text}
    (honto : ∀ k ∈ keys, ∃ k' ∈ keys, f k' = k) (hsub : ∀ k ∈ keys, (f k).Sublist k) :
    ∀ k ∈ keys, f k = k := by
  by_contra hsome
  push Not at hsome
  obtain ⟨k₀, hmem₀, hne₀⟩ := hsome
  obtain ⟨k, hk, hlongest⟩ := (keys.toFinset.filter fun k => f k ≠ k).exists_max_image
    List.length ⟨k₀, by simp [hmem₀, hne₀]⟩
  obtain ⟨hmem, hne⟩ : k ∈ keys ∧ f k ≠ k := by simpa using hk
  obtain ⟨k', hmem', himage⟩ := honto k hmem
  have hne' : f k' ≠ k' := by
    intro hsame
    rw [hsame] at himage
    rw [himage] at hsame
    exact hne hsame
  have hle : k'.length ≤ k.length := hlongest k' (by simp [hmem', hne'])
  rw [← himage] at hle
  exact hne' ((hsub k' hmem').eq_of_length_le hle)

theorem ofList_eq (sets : List (Text × Keywords)) :
    ofList sets = Dictionary.ofList (sets.map fun e => (normalExtension e.1, e.2)) := by
  show _ = List.foldl _ _ _
  rw [List.foldl_map]
  rfl

/-- A registry whose extensions have all been registered, whatever they were when that was done. -/
def IsRegistered (r : KeywordRegistry) : Prop :=
  ∀ e ∈ r.entries, ∃ written, normalExtension written = e.1

theorem isRegistered_ofList (sets : List (Text × Keywords)) : (ofList sets).IsRegistered := by
  intro e he
  have hmem : e.1 ∈ (ofList sets).entries.map Prod.fst := List.mem_map_of_mem he
  rw [ofList_eq, Dictionary.mem_keys_ofList, List.map_map] at hmem
  obtain ⟨set, -, hset⟩ := List.mem_map.mp hmem
  exact ⟨set.1, hset⟩

/-- A registry that is registered anew stays what it is if all its extensions are normal, and
only then. -/
theorem ofList_entries_eq_iff (r : KeywordRegistry) :
    ofList r.entries = r ↔ ∀ e ∈ r.entries, IsNormal e.1 := by
  constructor
  · intro h
    have honto : ∀ k ∈ r.entries.map Prod.fst,
        ∃ k' ∈ r.entries.map Prod.fst, normalExtension k' = k := by
      intro k hk
      rw [← h, ofList_eq, Dictionary.mem_keys_ofList, List.map_map] at hk
      obtain ⟨e, he, rfl⟩ := List.mem_map.mp hk
      exact ⟨e.1, List.mem_map_of_mem he, rfl⟩
    have hsub : ∀ k ∈ r.entries.map Prod.fst, (normalExtension k).Sublist k := by
      intro k hk
      apply normalExtension_sublist
      obtain ⟨k', -, rfl⟩ := honto k hk
      intro c hc
      exact isLower_of_mem_normalExtension hc
    intro e he
    apply normalExtension_eq_self_iff.mp
    exact eq_self_of_onto honto hsub e.1 (List.mem_map_of_mem he)
  · intro h
    have hsame : r.entries.map (fun e => (normalExtension e.1, e.2)) = r.entries.map id := by
      apply List.map_congr_left
      intro e he
      rw [normalExtension_eq_self_iff.mpr (h e he)]
      rfl
    rw [List.map_id] at hsame
    rw [ofList_eq, hsame, Dictionary.ofList_entries]

end KeywordRegistry

end CommentSwitch
