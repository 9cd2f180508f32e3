import CommentSwitch.Dictionary
import CommentSwitch.Remap.Table

/-!
# Tables laid over tables

What a look-up finds when many entries are put into a table one after the other, or one table
is laid over another: the entry that was put in last.  A remap table keeps, besides, the order
in which its patterns first came.

- `Dictionary.get?_extend`: what a look-up finds in a dictionary laid over another one
- `RemapTable.patterns_extend`, `RemapTable.replacement?_extend`: the same for remap tables
- `Dictionary.ofList_entries`, `RemapTable.ofList_entries`: a table is the table of its entries
- `Dictionary.extend_assoc`, `RemapTable.extend_assoc`: layers of tables need no brackets
-/

namespace CommentSwitch

/-! ## §1 Lists of entries -/

section Entries

variable {κ β : Type} [BEq κ] [LawfulBEq κ]

theorem lookup_eq_none {l : List (κ × β)} {k : κ} (h : k ∉ l.map Prod.fst) :
    l.lookup k = none := by
  apply List.lookup_eq_none_iff.mpr
  intro e he
  rw [bne_iff_ne]
  rintro rfl
  exact h (List.mem_map_of_mem he)

theorem lookup_cons_of_ne {k a : κ} (h : k ≠ a) (v : β) (l : List (κ × β)) :
    ((a, v) :: l).lookup k = l.lookup k := by
  have hmiss : (k == a) = false := by simpa using h
  rw [List.lookup_cons, hmiss]

/-- Where every key stands once it makes no difference from which end it is looked for. -/
theorem lookup_reverse {l : List (κ × β)} (h : (l.map Prod.fst).Nodup) (k : κ) :
    l.reverse.lookup k = l.lookup k := by
  induction l with
  | nil => rfl
  | cons e rest ih =>
    obtain ⟨a, v⟩ := e
    obtain ⟨hnot, hrest⟩ := List.nodup_cons.mp h
    rw [List.reverse_cons, List.lookup_append, ih hrest]
    by_cases hk : k = a
    · subst hk
      simp [lookup_eq_none hnot]
    · simp [lookup_cons_of_ne hk]

/-- Lists of entries with the same keys in the same order that answer every look-up alike are
equal. -/
theorem eq_of_lookup {l m : List (κ × β)} (h : (l.map Prod.fst).Nodup)
    (hkeys : l.map Prod.fst = m.map Prod.fst) (hlookup : ∀ k, l.lookup k = m.lookup k) :
    l = m := by
  induction l generalizing m with
  | nil =>
    symm
    simpa using hkeys.symm
  | cons e rest ih =>
    obtain ⟨a, v⟩ := e
    cases m with
    | nil => cases hkeys
    | cons e' rest' =>
      obtain ⟨a', v'⟩ := e'
      obtain ⟨rfl, hrest⟩ : a = a' ∧ rest.map Prod.fst = rest'.map Prod.fst := by
        simpa using hkeys
      obtain ⟨hnot, hnodup⟩ := List.nodup_cons.mp h
      have hv : v = v' := by simpa using hlookup a
      have htail : rest = rest' := by
        apply ih hnodup hrest
        intro k
        by_cases hk : k = a
        · -- The key at the head is in neither tail.
          subst hk
          have hnot' : k ∉ rest'.map Prod.fst := hrest ▸ hnot
          rw [lookup_eq_none hnot, lookup_eq_none hnot']
        · rw [← lookup_cons_of_ne hk v rest, ← lookup_cons_of_ne hk v' rest']
          exact hlookup k
      rw [hv, htail]

end Entries

/-! ## §2 Dictionaries -/

namespace Dictionary

variable {κ β : Type} [LT κ] [DecidableLT κ] [DecidableEq κ]
  [Trans (α := κ) (· < ·) (· < ·) (· < ·)] [Std.Trichotomous (α := κ) (· < ·)]

/-- Of the entries that are put in the last one with a key counts. -/
theorem get?_insertAll (d : Dictionary κ β) (l : List (κ × β)) (k : κ) :
    (d.insertAll l).get? k = (l.reverse.lookup k).or (d.get? k) := by
  induction l generalizing d with
  | nil => rfl
  | cons e rest ih =>
    obtain ⟨a, v⟩ := e
    show ((d.insert a v).insertAll rest).get? k = _
    rw [ih, get?_insert, List.reverse_cons, List.lookup_append, Option.or_assoc]
    by_cases hk : k = a
    · simp [hk]
    · simp [hk, lookup_cons_of_ne hk]

variable [Std.Irrefl (α := κ) (· < ·)]

omit [DecidableLT κ] [DecidableEq κ] [Trans (α := κ) (· < ·) (· < ·) (· < ·)]
  [Std.Trichotomous (α := κ) (· < ·)] in
theorem nodup_keys (d : Dictionary κ β) : (d.entries.map Prod.fst).Nodup := by
  refine List.pairwise_map.mpr (d.ordered.imp fun {a b} hab heq => ?_)
  rw [heq] at hab
  exact Std.Irrefl.irrefl (r := (· < ·)) b.1 hab

omit [Std.Irrefl (α := κ) (· < ·)] in
theorem ofList_append (l m : List (κ × β)) : ofList (l ++ m) = (ofList l).insertAll m :=
  List.foldl_append

/-- Where two dictionaries have a key the upper one counts. -/
theorem get?_extend (d upper : Dictionary κ β) (k : κ) :
    (d.extend upper).get? k = (upper.get? k).or (d.get? k) := by
  rw [extend, get?_insertAll, lookup_reverse upper.nodup_keys]
  rfl

/-- A dictionary is the dictionary of its entries. -/
theorem ofList_entries (d : Dictionary κ β) : ofList d.entries = d := by
  apply ext_get?
  intro k
  rw [ofList, get?_insertAll, lookup_reverse d.nodup_keys, get?_empty, Option.or_none, get?]

@[simp] theorem empty_extend (d : Dictionary κ β) : empty.extend d = d := d.ofList_entries

omit [Std.Irrefl (α := κ) (· < ·)] in
@[simp] theorem extend_empty (d : Dictionary κ β) : d.extend empty = d := rfl

theorem extend_assoc (d e f : Dictionary κ β) : (d.extend e).extend f = d.extend (e.extend f) := by
  apply ext_get?
  intro k
  simp only [get?_extend, Option.or_assoc]

/-- Laying a new dictionary over another one is putting in its entries one by one. -/
theorem extend_ofList (d : Dictionary κ β) (l : List (κ × β)) :
    d.extend (ofList l) = d.insertAll l := by
  apply ext_get?
  intro k
  rw [get?_extend, ofList, get?_insertAll, get?_insertAll, get?_empty, Option.or_none]

end Dictionary

/-! ## §3 Remap tables -/

namespace RemapTable

theorem ext {t u : RemapTable} (hpatterns : t.patterns = u.patterns)
    (hreplacement : ∀ p, t.replacement? p = u.replacement? p) : t = u := by
  have hentries : t.entries = u.entries := eq_of_lookup t.distinct hpatterns hreplacement
  cases t
  cases u
  cases hentries
  rfl

/-- A pattern that has come before adds nothing to the list of first appearances. -/
theorem eraseDups_append_cons {l : List Text} {p : Text} (hp : p ∈ l) (rest : List Text) :
    (l ++ p :: rest).eraseDups = (l ++ rest).eraseDups := by
  rw [List.eraseDups_append, List.eraseDups_append]
  congr 2
  simp [List.removeAll, hp]

/-- A list in which nothing comes twice is the list of its first appearances. -/
theorem eraseDups_of_nodup {l : List Text} (h : l.Nodup) : l.eraseDups = l := by
  induction l with
  | nil => rfl
  | cons p rest ih =>
    obtain ⟨hnot, hrest⟩ := List.nodup_cons.mp h
    have hfilter : rest.filter (fun q => !q == p) = rest := by
      apply List.filter_eq_self.mpr
      intro q hq
      have hne : q ≠ p := fun heq => hnot (heq ▸ hq)
      simp [hne]
    rw [List.eraseDups_cons, hfilter, ih hrest]

/-- The patterns of a table stay in front, and behind them the others come in the order in
which they are first put in. -/
theorem patterns_insertAll (t : RemapTable) (pairs : List (Text × Text)) :
    (t.insertAll pairs).patterns = (t.patterns ++ pairs.map Prod.fst).eraseDups := by
  induction pairs generalizing t with
  | nil =>
    rw [List.map_nil, List.append_nil]
    exact (eraseDups_of_nodup t.distinct).symm
  | cons e rest ih =>
    show ((t.insert e.1 e.2).insertAll rest).patterns = _
    rw [ih, patterns_insert, List.map_cons]
    split
    · next hmem => exact (eraseDups_append_cons hmem _).symm
    · simp

/-- Of the pairs that are put in the last one with a pattern counts. -/
theorem replacement?_insertAll (t : RemapTable) (pairs : List (Text × Text)) (p : Text) :
    (t.insertAll pairs).replacement? p = (pairs.reverse.lookup p).or (t.replacement? p) := by
  induction pairs generalizing t with
  | nil => rfl
  | cons e rest ih =>
    obtain ⟨q, r⟩ := e
    show ((t.insert q r).insertAll rest).replacement? p = _
    rw [ih, replacement?_insert, List.reverse_cons, List.lookup_append, Option.or_assoc]
    by_cases hp : p = q
    · simp [hp]
    · simp [hp, lookup_cons_of_ne hp]

theorem patterns_extend (t upper : RemapTable) :
    (t.extend upper).patterns = (t.patterns ++ upper.patterns).eraseDups :=
  t.patterns_insertAll upper.entries

theorem replacement?_extend (t upper : RemapTable) (p : Text) :
    (t.extend upper).replacement? p = (upper.replacement? p).or (t.replacement? p) := by
  rw [extend, replacement?_insertAll, lookup_reverse upper.distinct]
  rfl

/-- A table is the table of its pairs. -/
theorem ofList_entries (t : RemapTable) : ofList t.entries = t := by
  apply ext
  · rw [ofList, patterns_insertAll]
    exact eraseDups_of_nodup t.distinct
  · intro p
    rw [ofList, replacement?_insertAll, lookup_reverse t.distinct]
    exact Option.or_none

/-- A pattern that comes last is added to the list of first appearances if it is new. -/
theorem eraseDups_concat (l : List Text) (p : Text) :
    (l ++ [p]).eraseDups =
      if p ∈ l.eraseDups then l.eraseDups else l.eraseDups ++ [p] := by
  rw [List.eraseDups_append]
  by_cases h : p ∈ l
  · simp [List.removeAll, h]
  · have hsingle : [p].eraseDups = [p] := eraseDups_of_nodup (by simp)
    simp [List.removeAll, h, hsingle]

/-- It makes no difference whether a pair is put in before or after a table is laid over another
one. -/
theorem extend_insert (t upper : RemapTable) (p r : Text) :
    t.extend (upper.insert p r) = (t.extend upper).insert p r := by
  -- The order is that of the first appearances, the replacements are the last ones.
  apply ext
  · rw [patterns_extend, patterns_insert, patterns_insert, patterns_extend]
    by_cases hupper : p ∈ upper.patterns
    · simp [hupper]
    · rw [if_neg hupper, ← List.append_assoc, eraseDups_concat]
  · intro q
    rw [replacement?_extend, replacement?_insert, replacement?_insert, replacement?_extend]
    split <;> rfl

theorem extend_insertAll (t upper : RemapTable) (pairs : List (Text × Text)) :
    t.extend (upper.insertAll pairs) = (t.extend upper).insertAll pairs := by
  induction pairs generalizing upper with
  | nil => rfl
  | cons e rest ih =>
    show t.extend ((upper.insert e.1 e.2).insertAll rest) = _
    rw [ih, extend_insert]
    rfl

@[simp] theorem empty_extend (t : RemapTable) : empty.extend t = t := t.ofList_entries

@[simp] theorem extend_empty (t : RemapTable) : t.extend empty = t := rfl

theorem extend_assoc (t u w : RemapTable) : (t.extend u).extend w = t.extend (u.extend w) :=
  (extend_insertAll t u w.entries).symm

/-- Laying a new table over another one is putting in its pairs one by one. -/
theorem extend_ofList (t : RemapTable) (pairs : List (Text × Text)) :
    t.extend (ofList pairs) = t.insertAll pairs :=
  extend_insertAll t empty pairs

end RemapTable

end CommentSwitch
