import CommentSwitch.Proofs.Keywords.Validation

/-!
# Tokens that are recognised

A token is recognised on a line if no token that is tried before it starts the line too.  For the
bare tokens that is just what validation asks for.  With something behind it a token can be mistaken
for a longer one that is tried before it, unless blank follows it and tokens hold none.

- `Keywords.classify_eq_find?`: the first token that starts a line decides
- `Keywords.classify_token_append_iff`: when the directive of a token is found
- `Keywords.validate_eq_ok_iff_classify`: the valid sets are those whose tokens are recognised
-/

namespace CommentSwitch

/-! ## §1 Roles in order -/

/-- The roles whose tokens are tried before that of a role. -/
def Role.before (role : Role) : List Role := Role.all.takeWhile (· ≠ role)

theorem Role.mem_before_iff {r role : Role} : r ∈ role.before ↔ [r, role].Sublist Role.all := by
  cases r <;> cases role <;> decide

theorem Role.not_mem_before (role : Role) : role ∉ role.before := by
  cases role <;> decide

theorem Role.exists_all_eq (role : Role) : ∃ behind, Role.all = role.before ++ role :: behind := by
  cases role <;> exact ⟨_, rfl⟩

namespace Keywords

variable {k : Keywords} {role : Role} {t u : Text}

/-- Validation compares every token with those that are tried before it. -/
theorem pairwise_inOrder_iff :
    (k.inOrder.Pairwise fun a b => Text.startsWith a.2 b.2 = false) ↔
      ∀ role, ∀ r ∈ role.before, Text.startsWith (k.token r) (k.token role) = false := by
  rw [inOrder, List.pairwise_map, List.pairwise_iff_forall_sublist]
  constructor
  · intro h role r hr
    exact h (Role.mem_before_iff.mp hr)
  · intro h r role hr
    exact h role r (Role.mem_before_iff.mpr hr)

/-! ## §2 Lines that start with a token -/

/-- The directive on a line that starts with the token of a role, with the text behind the token.
A line that is switched off is code. -/
def directive (rest : Text) : Role → Directive
  | .ifRole => .opening rest
  | .elseifRole => .branch rest
  | .elseRole => .otherwise
  | .endifRole => .closing
  | .evalRole => .code

theorem role_eq_of_directive_eq {r : Role} (h : directive t r = directive u role) : r = role := by
  cases r <;> cases role <;> first | rfl | cases h

theorem afterToken?_eq (token text : Text) :
    Text.afterToken? token text =
      if Text.startsWith token text then some (text.drop token.length) else none := by
  split
  · next h =>
    obtain ⟨rest, rfl⟩ := Text.startsWith_iff.mp h
    rw [List.drop_left]
    exact Text.afterToken?_eq_some_iff.mpr rfl
  · next h => exact afterToken?_eq_none_iff.mpr (Bool.eq_false_iff.mpr h)

/-- The first token that starts a line decides what the line says.  Without one it is code, as it
is behind the `eval` token. -/
theorem classify_eq_find? (k : Keywords) (t : Text) :
    k.classify t = (Role.all.find? fun r => Text.startsWith (k.token r) t).elim .code
      fun r => directive (t.drop (k.token r).length) r := by
  unfold classify
  rw [afterToken?_eq, afterToken?_eq]
  simp only [Role.all, List.find?_cons, List.find?_nil, token]
  cases Text.startsWith k.ifToken t with
  | true => rfl
  | false =>
    cases Text.startsWith k.elseifToken t with
    | true => rfl
    | false =>
      cases Text.startsWith k.elseToken t <;> cases Text.startsWith k.endifToken t <;>
        cases Text.startsWith k.evalToken t <;> rfl

/-- The directive of a token is found if no token that is tried before it starts the line. -/
theorem classify_token_append_iff :
    k.classify (k.token role ++ u) = directive u role ↔
      ∀ r ∈ role.before, Text.startsWith (k.token r) (k.token role ++ u) = false := by
  have hstarts : Text.startsWith (k.token role) (k.token role ++ u) = true :=
    Text.startsWith_iff.mpr (List.prefix_append _ u)
  obtain ⟨behind, hall⟩ := role.exists_all_eq
  rw [classify_eq_find?, hall, List.find?_append]
  cases hfind : role.before.find? fun r => Text.startsWith (k.token r) (k.token role ++ u) with
  | none =>
    -- The search goes on to the role itself, whose token starts the line.
    have hmissed : ∀ r ∈ role.before, Text.startsWith (k.token r) (k.token role ++ u) = false := by
      simpa using List.find?_eq_none.mp hfind
    simp only [Option.none_or, List.find?_cons, hstarts, Option.elim_some, List.drop_left, true_iff]
    exact hmissed
  | some r =>
    -- The line belongs to `r`, and the directive tells roles apart.
    have hr : r ∈ role.before := List.mem_of_find?_eq_some hfind
    have hfirst : Text.startsWith (k.token r) (k.token role ++ u) = true := by
      simpa using List.find?_some hfind
    rw [Option.some_or, Option.elim_some]
    constructor
    · intro h
      rw [role_eq_of_directive_eq h] at hr
      exact absurd hr role.not_mem_before
    · intro h
      rw [h r hr] at hfirst
      cases hfirst

/-! ## §3 Valid sets -/

/-- In a valid set without blank every token is recognised, also with blank behind it. -/
theorem classify_token_append_of_compact (hvalid : k.validate = .ok ()) (hcompact : k.Compact)
    (role : Role) (hu : ∀ c ∈ u.head?, Text.isBlank c = true) :
    k.classify (k.token role ++ u) = directive u role := by
  apply classify_token_append_iff.mpr
  intro r hr
  have hapart := pairwise_inOrder_iff.mp (validate_eq_ok_iff.mp hvalid).2 role r hr
  rw [← Bool.not_eq_true, Text.startsWith_iff] at hapart ⊢
  intro hprefix
  exact hapart (prefix_of_prefix_append (hcompact r) hu hprefix)

/-- **The valid sets are those whose tokens are recognised**: none is empty, and every one is, by
itself, the directive of its role.  If they hold no blank, a space and any text may follow. -/
theorem validate_eq_ok_iff_classify (k : Keywords) :
    (k.validate = .ok () ↔
      (∀ role, k.token role ≠ []) ∧ ∀ role, k.classify (k.token role) = directive [] role) ∧
    (k.validate = .ok () → k.Compact → ∀ role c,
      k.classify (k.token role ++ ' ' :: c) = directive (' ' :: c) role) := by
  constructor
  · have hbare (role : Role) : k.classify (k.token role) = directive [] role ↔
        ∀ r ∈ role.before, Text.startsWith (k.token r) (k.token role) = false := by
      simpa using @classify_token_append_iff k role []
    simp only [validate_eq_ok_iff, pairwise_inOrder_iff, hbare]
  · intro hvalid hcompact role c
    apply classify_token_append_of_compact hvalid hcompact role
    intro d hd
    obtain rfl : ' ' = d := Option.some.inj hd
    decide

/-- Tokens of which later ones start earlier ones. -/
def shorteningTokens : Keywords where
  ifToken := Text.ofString "#if"
  elseifToken := Text.ofString "#i"
  elseToken := Text.ofString "#else"
  endifToken := Text.ofString "#e"
  evalToken := Text.ofString "#"

/-- What follows a shorter token does not turn it into a longer one. -/
theorem classify_shorteningTokens :
    shorteningTokens.validate = .ok () ∧ shorteningTokens.Compact ∧
      shorteningTokens.classify (Text.ofString "#i f") = .branch (Text.ofString " f") ∧
      shorteningTokens.classify (Text.ofString "# if") = .code := by
  have hvalid : shorteningTokens.validate = .ok () := by decide
  have hcompact : shorteningTokens.Compact := by
    apply compact_iff_all.mpr
    intro role
    cases role <;> decide
  have hrecognised := (validate_eq_ok_iff_classify shorteningTokens).2 hvalid hcompact
  exact ⟨hvalid, hcompact, hrecognised .elseifRole ['f'], hrecognised .evalRole ['i', 'f']⟩

end Keywords

end CommentSwitch
