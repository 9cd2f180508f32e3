import CommentSwitch.Text.Basic

/-!
# Remap tables

The replacements that are made in every line of the output, in order.  A table lists
each pattern once, at the place where it was first put in, with the replacement that
was put in last.

- `RemapTable.patterns_insert`: a pattern keeps its place, and a new one comes last
- `RemapTable.replacement?_insert`: the replacement of a pattern is the latest one
-/

namespace CommentSwitch

/-- Pairs of a pattern and its replacement, each pattern once. -/
structure RemapTable where
  entries : List (Text × Text)
  distinct : (entries.map Prod.fst).Nodup

namespace RemapTable

/-! ## §1 Insertion -/

/-- The patterns in order. -/
def patterns (t : RemapTable) : List Text := t.entries.map Prod.fst

/-- The replacement of a pattern. -/
def replacement? (t : RemapTable) (pattern : Text) : Option Text := t.entries.lookup pattern

/-- The number of pairs. -/
def size (t : RemapTable) : Nat := t.entries.length

/-- Whether there is no pair. -/
def isEmpty (t : RemapTable) : Bool := t.entries.isEmpty

/-- The table without pairs. -/
def empty : RemapTable := ⟨[], .nil⟩

/-- Replaces the replacement of a pattern, or adds the pair at the end. -/
def put (pattern replacement : Text) : List (Text × Text) → List (Text × Text)
  | [] => [(pattern, replacement)]
  | (p, r) :: rest =>
    if p = pattern then (p, replacement) :: rest
    else (p, r) :: put pattern replacement rest

theorem map_fst_put (pattern replacement : Text) (l : List (Text × Text)) :
    (put pattern replacement l).map Prod.fst
      = if pattern ∈ l.map Prod.fst then l.map Prod.fst
        else l.map Prod.fst ++ [pattern] := by
  induction l with
  | nil => simp [put]
  | cons e rest ih =>
    obtain ⟨p, r⟩ := e
    rw [put]
    split
    · next h => simp [h]
    · next h =>
      have h' : ¬ pattern = p := fun e => h e.symm
      simp only [List.map_cons, ih, List.mem_cons, h', false_or]
      split <;> simp

theorem nodup_map_fst_put {pattern replacement : Text} {l : List (Text × Text)}
    (h : (l.map Prod.fst).Nodup) : ((put pattern replacement l).map Prod.fst).Nodup := by
  rw [map_fst_put]
  split
  · exact h
  · next hnot =>
    refine List.nodup_append.2 ⟨h, by simp, ?_⟩
    intro a ha b hb
    rw [List.mem_singleton] at hb
    exact fun e => hnot (hb ▸ e ▸ ha)

theorem lookup_put (pattern replacement : Text) (l : List (Text × Text)) (q : Text) :
    (put pattern replacement l).lookup q
      = if q = pattern then some replacement else l.lookup q := by
  have miss {q p : Text} (h : ¬ q = p) : (q == p) = false := beq_eq_false_iff_ne.2 h
  induction l with
  | nil =>
    by_cases h : q = pattern
    · simp [put, h]
    · simp [put, List.lookup_cons, h, miss h]
  | cons e rest ih =>
    obtain ⟨p, r⟩ := e
    rw [put]
    split
    · next hp =>
      subst hp
      by_cases h : q = p
      · simp [h]
      · simp [List.lookup_cons, h, miss h]
    · next hp =>
      by_cases h : q = p
      · subst h
        simp [hp]
      · simp [List.lookup_cons, miss h, ih]

/-- Puts a pair in; a pattern that is present keeps its place. -/
def insert (t : RemapTable) (pattern replacement : Text) : RemapTable :=
  ⟨put pattern replacement t.entries, nodup_map_fst_put t.distinct⟩

/-- Puts the pairs of a list in, in turn. -/
def insertAll (t : RemapTable) (pairs : List (Text × Text)) : RemapTable :=
  pairs.foldl (fun t e => t.insert e.1 e.2) t

/-- The table of a list of pairs. -/
def ofList (pairs : List (Text × Text)) : RemapTable := empty.insertAll pairs

/-- Puts the pairs of another table behind those of this one. -/
def extend (t other : RemapTable) : RemapTable := t.insertAll other.entries

/-! ## §2 Laws of insertion -/

/-- A pattern keeps its place, and a new one comes last. -/
theorem patterns_insert (t : RemapTable) (pattern replacement : Text) :
    (t.insert pattern replacement).patterns
      = if pattern ∈ t.patterns then t.patterns else t.patterns ++ [pattern] :=
  map_fst_put pattern replacement t.entries

/-- The replacement of a pattern is the one that was put in last. -/
theorem replacement?_insert (t : RemapTable) (pattern replacement q : Text) :
    (t.insert pattern replacement).replacement? q
      = if q = pattern then some replacement else t.replacement? q :=
  lookup_put pattern replacement t.entries q

end RemapTable

end CommentSwitch
