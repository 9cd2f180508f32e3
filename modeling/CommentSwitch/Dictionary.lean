import CommentSwitch.Text.Basic

/-!
# Ordered dictionaries

A finite map whose entries are kept in strictly increasing order of their keys,
so that a map has one representation and its entries come out sorted.

- `Dictionary.get?_insert`: what a look-up finds after an insertion
- `Dictionary.ext_get?`: dictionaries that answer all look-ups alike are equal
-/

namespace CommentSwitch

/-- A finite map from keys to values, its entries in strictly increasing order of keys. -/
structure Dictionary (κ β : Type) [LT κ] where
  entries : List (κ × β)
  ordered : entries.Pairwise fun a b => a.1 < b.1

namespace Dictionary

variable {κ β : Type} [LT κ] [DecidableLT κ] [DecidableEq κ]

/-! ## §1 Look-up -/

/-- The value at a key. -/
def get? (d : Dictionary κ β) (k : κ) : Option β := d.entries.lookup k

/-- The number of entries. -/
def size (d : Dictionary κ β) : Nat := d.entries.length

/-- Whether there is no entry. -/
def isEmpty (d : Dictionary κ β) : Bool := d.entries.isEmpty

/-- The dictionary without entries. -/
def empty : Dictionary κ β := ⟨[], .nil⟩

/-! ## §2 Insertion -/

/-- Puts an entry at its place, replacing the one with its key. -/
def insertEntry (k : κ) (v : β) : List (κ × β) → List (κ × β)
  | [] => [(k, v)]
  | (a, w) :: rest =>
    if k < a then (k, v) :: (a, w) :: rest
    else if k = a then (k, v) :: rest
    else (a, w) :: insertEntry k v rest

theorem mem_insertEntry {k : κ} {v : β} {l : List (κ × β)} {x : κ × β}
    (h : x ∈ insertEntry k v l) : x = (k, v) ∨ x ∈ l := by
  induction l with
  | nil => simpa [insertEntry] using h
  | cons e rest ih =>
    obtain ⟨a, w⟩ := e
    simp only [insertEntry] at h
    split at h
    · simpa using h
    · split at h
      · rcases List.mem_cons.1 h with h | h
        · exact .inl h
        · exact .inr (List.mem_cons_of_mem _ h)
      · rcases List.mem_cons.1 h with h | h
        · exact .inr (h ▸ List.mem_cons_self)
        · rcases ih h with h | h
          · exact .inl h
          · exact .inr (List.mem_cons_of_mem _ h)

theorem insertEntry_ordered [Trans (α := κ) (· < ·) (· < ·) (· < ·)]
    [Std.Trichotomous (α := κ) (· < ·)] (k : κ) (v : β) {l : List (κ × β)}
    (h : l.Pairwise fun a b => a.1 < b.1) :
    (insertEntry k v l).Pairwise fun a b => a.1 < b.1 := by
  induction l with
  | nil => simp [insertEntry]
  | cons e rest ih =>
    obtain ⟨a, w⟩ := e
    obtain ⟨hhead, htail⟩ := List.pairwise_cons.1 h
    simp only [insertEntry]
    split
    · next hk =>
      refine List.pairwise_cons.2 ⟨?_, h⟩
      intro x hx
      rcases List.mem_cons.1 hx with rfl | hx
      · exact hk
      · exact Trans.trans hk (hhead x hx)
    · split
      · next hk => exact List.pairwise_cons.2 ⟨fun x hx => hk ▸ hhead x hx, htail⟩
      · next hlt hne =>
        refine List.pairwise_cons.2 ⟨?_, ih htail⟩
        intro x hx
        rcases mem_insertEntry hx with rfl | hx
        · exact Decidable.byContradiction fun hn =>
            hne (Std.Trichotomous.trichotomous (r := (· < ·)) k a hlt hn)
        · exact hhead x hx

variable [Trans (α := κ) (· < ·) (· < ·) (· < ·)] [Std.Trichotomous (α := κ) (· < ·)]

/-- The dictionary with `v` at `k`. -/
def insert (d : Dictionary κ β) (k : κ) (v : β) : Dictionary κ β :=
  ⟨insertEntry k v d.entries, insertEntry_ordered k v d.ordered⟩

/-- The dictionary that results from inserting the entries of a list in turn. -/
def insertAll (d : Dictionary κ β) (entries : List (κ × β)) : Dictionary κ β :=
  entries.foldl (fun d e => d.insert e.1 e.2) d

/-- The dictionary with the entries of a list, later ones winning. -/
def ofList (entries : List (κ × β)) : Dictionary κ β := empty.insertAll entries

/-- Lays `upper` on top of `d`: where both have a key, `upper` wins. -/
def extend (d upper : Dictionary κ β) : Dictionary κ β := d.insertAll upper.entries

/-- The entries whose key and value pass a test. -/
def filter (d : Dictionary κ β) (p : κ → β → Bool) : Dictionary κ β :=
  ⟨d.entries.filter fun e => p e.1 e.2, d.ordered.filter _⟩

/-! ## §3 Keys -/

/-- Of two lists neither of which comes before the other there is only one, if that holds
of their members. -/
theorem eq_of_not_lt {α : Type} [LT α] [DecidableLT α] [DecidableEq α]
    (total : ∀ a b : α, ¬ a < b → ¬ b < a → a = b) :
    ∀ l m : List α, ¬ l < m → ¬ m < l → l = m
  | [], [], _, _ => rfl
  | [], _ :: _, h, _ => absurd (List.nil_lt_cons _ _) h
  | _ :: _, [], _, h => absurd (List.nil_lt_cons _ _) h
  | a :: l, b :: m, h, h' => by
    have hab : ¬ a < b := fun hlt => h (List.cons_lt_cons_iff.2 (.inl hlt))
    have hba : ¬ b < a := fun hlt => h' (List.cons_lt_cons_iff.2 (.inl hlt))
    obtain rfl := total a b hab hba
    have hl : ¬ l < m := fun hlt => h (List.cons_lt_cons_iff.2 (.inr ⟨rfl, hlt⟩))
    have hm : ¬ m < l := fun hlt => h' (List.cons_lt_cons_iff.2 (.inr ⟨rfl, hlt⟩))
    rw [eq_of_not_lt total l m hl hm]

/-- Of two texts neither of which comes before the other there is only one. -/
theorem text_eq_of_not_lt (s t : Text) (h : ¬ s < t) (h' : ¬ t < s) : s = t :=
  eq_of_not_lt (fun _ _ h h' => Char.le_antisymm (Char.not_lt.1 h') (Char.not_lt.1 h)) s t h h'

/-- Texts can be keys. -/
instance : Std.Trichotomous (α := Text) (· < ·) := ⟨text_eq_of_not_lt⟩

/-- Lists of texts can be keys. -/
instance : Std.Trichotomous (α := List Text) (· < ·) := ⟨eq_of_not_lt text_eq_of_not_lt⟩

end Dictionary

/-! ## §4 Laws of look-up -/

namespace Dictionary

variable {κ β : Type} [LT κ] [DecidableEq κ]

@[simp] theorem get?_empty (k : κ) : (empty : Dictionary κ β).get? k = none := rfl

theorem lookup_insertEntry [DecidableLT κ] (k : κ) (v : β) (l : List (κ × β)) (q : κ) :
    (insertEntry k v l).lookup q = if q = k then some v else l.lookup q := by
  have miss {q k : κ} (h : ¬ q = k) : (q == k) = false := beq_eq_false_iff_ne.2 h
  induction l with
  | nil =>
    by_cases h : q = k
    · simp [insertEntry, h]
    · simp [insertEntry, List.lookup_cons, h, miss h]
  | cons e rest ih =>
    obtain ⟨a, w⟩ := e
    simp only [insertEntry]
    split
    · by_cases h : q = k
      · simp [h]
      · simp [List.lookup_cons, h, miss h]
    · split
      · next hk =>
        subst hk
        by_cases h : q = k
        · simp [h]
        · simp [List.lookup_cons, h, miss h]
      · next hne =>
        by_cases h : q = a
        · subst h
          have : ¬ q = k := fun e => hne e.symm
          simp [this]
        · simp [List.lookup_cons, miss h, ih]

/-- A look-up finds an inserted value at its key and elsewhere what was there. -/
theorem get?_insert [DecidableLT κ] [Trans (α := κ) (· < ·) (· < ·) (· < ·)]
    [Std.Trichotomous (α := κ) (· < ·)] (d : Dictionary κ β) (k : κ) (v : β) (q : κ) :
    (d.insert k v).get? q = if q = k then some v else d.get? q :=
  lookup_insertEntry k v d.entries q

/-- A look-up answers with the value of the entry that has the key. -/
theorem get?_eq_some_iff [Std.Irrefl (α := κ) (· < ·)] {d : Dictionary κ β} {k : κ} {v : β} :
    d.get? k = some v ↔ (k, v) ∈ d.entries := by
  obtain ⟨l, hl⟩ := d
  simp only [get?]
  induction l with
  | nil => simp
  | cons e rest ih =>
    obtain ⟨a, w⟩ := e
    obtain ⟨hhead, htail⟩ := List.pairwise_cons.1 hl
    by_cases h : k = a
    · subst h
      have hnot : (k, v) ∉ rest := fun hm => Std.Irrefl.irrefl (r := (· < ·)) k (hhead _ hm)
      simp [hnot, eq_comm]
    · have hb : (k == a) = false := beq_eq_false_iff_ne.2 h
      simp [List.lookup_cons, hb, h, ih htail]

/-- Dictionaries that answer every look-up alike are equal. -/
theorem ext_get? [Trans (α := κ) (· < ·) (· < ·) (· < ·)] [Std.Irrefl (α := κ) (· < ·)]
    {d e : Dictionary κ β} (h : ∀ k, d.get? k = e.get? k) : d = e := by
  have irrefl (k : κ) : ¬ k < k := Std.Irrefl.irrefl (r := (· < ·)) k
  have nodup (d : Dictionary κ β) : d.entries.Nodup :=
    d.ordered.imp (S := (· ≠ ·)) fun {a b} (hab : a.1 < b.1) he => irrefl b.1 (he ▸ hab)
  have hp : d.entries.Perm e.entries :=
    (List.perm_ext_iff_of_nodup (nodup d) (nodup e)).2 fun ⟨k, v⟩ => by
      rw [← get?_eq_some_iff, ← get?_eq_some_iff, h]
  have antisymm (a b : κ × β) (hab : a.1 < b.1) (hba : b.1 < a.1) : a = b :=
    absurd (Trans.trans hab hba : a.1 < a.1) (irrefl a.1)
  have he : d.entries = e.entries :=
    hp.eq_of_pairwise (fun a b _ _ => antisymm a b) d.ordered e.ordered
  cases d; cases e; cases he; rfl

end Dictionary

end CommentSwitch
