import CommentSwitch.Keywords.Registry
import CommentSwitch.Proofs.Text.Trimming
import Mathlib.Data.List.Pairwise

/-!
# Validated keywords

What the validation of a keyword set, or of a whole registry, promises to the classification of
lines.

- `Keywords.validate_eq_ok_iff`: the meaning of a successful validation
- `Keywords.classify_eq_code_iff`: a line is code when none of the four directive
  tokens starts it
- `KeywordRegistry.validate_of_mem`: in a valid registry every set is valid
-/

namespace CommentSwitch

namespace Keywords

/-! ## §1 Validation -/

theorem mem_inOrder (k : Keywords) (role : Role) : (role, k.token role) ∈ k.inOrder := by
  cases role <;> simp [inOrder, Role.all]

theorem firstHidden?_eq_none_iff {l : List (Role × Text)} :
    firstHidden? l = none ↔ l.Pairwise fun a b => Text.startsWith a.2 b.2 = false := by
  induction l with
  | nil => simp [firstHidden?]
  | cons entry later ih =>
    rw [List.pairwise_cons, firstHidden?]
    cases hfind : later.find? fun e => Text.startsWith entry.2 e.2 with
    | none =>
      have hhead : ∀ e ∈ later, Text.startsWith entry.2 e.2 = false := by
        simpa using List.find?_eq_none.mp hfind
      exact ⟨fun h => ⟨hhead, ih.mp h⟩, fun h => ih.mpr h.2⟩
    | some hidden =>
      have hstarts : Text.startsWith entry.2 hidden.2 = true := by
        simpa using List.find?_some hfind
      simp only [reduceCtorEq, false_iff, not_and]
      intro hhead
      simp [hhead hidden (List.mem_of_find?_eq_some hfind)] at hstarts

/-- A keyword set is valid when no token is empty and none starts a later one. -/
theorem validate_eq_ok_iff {k : Keywords} :
    k.validate = .ok () ↔
      (∀ role, k.token role ≠ []) ∧
        k.inOrder.Pairwise fun a b => Text.startsWith a.2 b.2 = false := by
  rw [validate, defect?]
  cases hfind : k.inOrder.find? fun e => e.2.isEmpty with
  | none =>
    have hfilled (role : Role) : k.token role ≠ [] := by
      have h := List.find?_eq_none.mp hfind _ (mem_inOrder k role)
      simpa using h
    simp only [hfilled, ne_eq, not_false_eq_true, implies_true, true_and]
    rw [← firstHidden?_eq_none_iff]
    cases firstHidden? k.inOrder <;> simp
  | some entry =>
    obtain ⟨role, token⟩ := entry
    have hmem : (role, token) ∈ k.inOrder := List.mem_of_find?_eq_some hfind
    have hempty : token = [] := by simpa using List.find?_some hfind
    obtain ⟨_, _, hentry⟩ := List.mem_map.mp hmem
    cases hentry
    simp only [reduceCtorEq, false_iff, not_and]
    exact fun hfilled => absurd hempty (hfilled role)

theorem token_ne_nil {k : Keywords} (hvalid : k.validate = .ok ()) (role : Role) :
    k.token role ≠ [] :=
  (validate_eq_ok_iff.mp hvalid).1 role

/-- In a valid set no directive token starts the `eval` token. -/
theorem startsWith_evalToken {k : Keywords} (hvalid : k.validate = .ok ()) {role : Role}
    (hrole : role ≠ .evalRole) : Text.startsWith (k.token role) k.evalToken = false := by
  have hpairs := (validate_eq_ok_iff.mp hvalid).2
  simp only [inOrder, Role.all, List.map_cons, List.map_nil, List.pairwise_cons, List.mem_cons,
    List.not_mem_nil, or_false, forall_eq_or_imp, forall_eq] at hpairs
  cases role <;> simp_all [token]

/-! ## §2 Classification -/

theorem afterToken?_eq_none_iff {token text : Text} :
    Text.afterToken? token text = none ↔ Text.startsWith token text = false := by
  rw [Option.eq_none_iff_forall_ne_some, Bool.eq_false_iff, ne_eq, Text.startsWith_iff]
  simp only [ne_eq, Text.afterToken?_eq_some_iff, List.IsPrefix, not_exists]
  exact forall_congr' fun rest => not_congr eq_comm

/-- A line is code when none of the four directive tokens starts it. -/
theorem classify_eq_code_iff {k : Keywords} {t : Text} :
    k.classify t = .code ↔
      ∀ role, role ≠ .evalRole → Text.startsWith (k.token role) t = false := by
  have hroles : (∀ role, role ≠ .evalRole → Text.startsWith (k.token role) t = false) ↔
      Text.startsWith k.ifToken t = false ∧ Text.startsWith k.elseifToken t = false ∧
        Text.startsWith k.elseToken t = false ∧ Text.startsWith k.endifToken t = false := by
    constructor
    · intro h
      exact ⟨h .ifRole (by decide), h .elseifRole (by decide), h .elseRole (by decide),
        h .endifRole (by decide)⟩
    · rintro ⟨hif, helseif, helse, hendif⟩ role hrole
      cases role <;> first | assumption | contradiction
  rw [hroles, ← afterToken?_eq_none_iff, ← afterToken?_eq_none_iff, classify]
  cases Text.afterToken? k.ifToken t with
  | some rest => simp
  | none =>
    cases Text.afterToken? k.elseifToken t with
    | some rest => simp
    | none =>
      cases Text.startsWith k.elseToken t <;> cases Text.startsWith k.endifToken t <;> simp

theorem classify_nil {k : Keywords} (hvalid : k.validate = .ok ()) : k.classify [] = .code := by
  refine classify_eq_code_iff.mpr fun role _ => Bool.eq_false_iff.mpr fun h => ?_
  exact token_ne_nil hvalid role (List.prefix_nil.mp (Text.startsWith_iff.mp h))

/-! ## §3 Tokens without blank -/

/-- No token holds a blank character. -/
def Compact (k : Keywords) : Prop := ∀ role, ∀ c ∈ k.token role, Text.isBlank c = false

theorem compact_iff_all {k : Keywords} :
    k.Compact ↔ ∀ role, ((k.token role).all fun c => !Text.isBlank c) = true := by
  simp [Compact]

/-- A text without blank that starts `t ++ u`, where `u` begins with blank, starts `t`. -/
theorem prefix_of_prefix_append {s t u : Text} (hs : ∀ c ∈ s, Text.isBlank c = false)
    (hu : ∀ c ∈ u.head?, Text.isBlank c = true) (h : s <+: t ++ u) : s <+: t := by
  rcases List.prefix_or_prefix_of_prefix h (List.prefix_append t u) with hst | ⟨r, hr⟩
  · exact hst
  · -- `s` reaches beyond `t`; the first character of that part would be blank.
    subst hr
    rw [List.prefix_append_right_inj] at h
    cases r with
    | nil => simp
    | cons c r =>
      obtain ⟨v, rfl⟩ := h
      have hblank : Text.isBlank c = true := hu c (by simp)
      simp [hs c (by simp)] at hblank

theorem validate_standard : standard.validate = .ok () := by decide

theorem compact_standard : standard.Compact := by
  apply compact_iff_all.mpr
  intro role
  cases role <;> decide

theorem Compact.trim_evalToken {k : Keywords} (hcompact : k.Compact) :
    Text.trim k.evalToken = k.evalToken :=
  Text.trim_eq_self (hcompact .evalRole)

end Keywords

/-! ## §4 Registries -/

/-- Of checks that have passed one after the other all have passed. -/
theorem forall_of_forM {α ε : Type} {f : α → Except ε Unit} {xs : List α}
    (h : xs.forM f = .ok ()) : ∀ x ∈ xs, f x = .ok () := by
  induction xs with
  | nil => nofun
  | cons x xs ih =>
    change (f x >>= fun _ => xs.forM f) = .ok () at h
    cases hx : f x with
    | error e => rw [hx] at h; cases h
    | ok u =>
      rw [hx] at h
      exact List.forall_mem_cons.mpr ⟨hx, ih h⟩

/-- In a valid registry every set is valid. -/
theorem KeywordRegistry.validate_of_mem {r : KeywordRegistry} (hvalid : r.validate = .ok ())
    {e : Text × Keywords} (he : e ∈ r.entries) : e.2.validate = .ok () := by
  have hcheck := forall_of_forM hvalid e he
  dsimp only at hcheck
  split at hcheck
  · assumption
  · cases hcheck

end CommentSwitch
