import CommentSwitch.Yaml.Load
import CommentSwitch.Yaml.Printer
import Mathlib.Data.List.Forall2

/-!
# Content that survives

A text survives writing and reading if the node that comes back says the same, and says it as a
text and not as a number.  Mappings survive with everything in them.  What loads from nodes that
hold what was written does not depend on how they are written.

- `Content.survives`: whether the document that is printed holds what was to be printed
- `Load.Gives`: loading that has a result, whatever else the document holds
- `Load.Ensures`: what holds of a result, if there is one
- `Load.text_gives`, `Load.tree_gives`, `Load.bool?_gives`: what is loaded from nodes that hold it
-/

namespace CommentSwitch

namespace Yaml

/-! ## §1 Reading within a bound -/

namespace TokenReader

/-- Reads at most so many tokens, up to the end or to the first mistake. -/
def readWithin : (fuel : Nat) → TokenReader → List Token
  | 0, r => r.certain
  | fuel + 1, r =>
    match r.step? with
    | none => r.certain
    | some (.done r) => r.tokens.reverse
    | some (.more next) =>
      if next.cursor.rest.length < r.cursor.rest.length then readWithin fuel next else r.certain

theorem readAll_eq_of_lt (r : TokenReader) {fuel : Nat}
    (hfuel : r.cursor.rest.length < fuel) : r.readAll = readWithin fuel r := by
  induction fuel generalizing r with
  | zero => omega
  | succ fuel ih =>
    rw [readAll, readWithin]
    cases r.step? with
    | none => rfl
    | some progress =>
      cases progress with
      | done last => rfl
      | more next =>
        show (if _ then readAll next else _) = if _ then readWithin fuel next else _
        split
        · next hshorter => exact ih next (by omega)
        · rfl

/-- There are no more tokens than characters, and one for the end: reading can go by recursion on
that number. -/
theorem readAll_eq_readWithin :
    readAll = fun r => readWithin (r.cursor.rest.length + 1) r := by
  funext r
  exact r.readAll_eq_of_lt (Nat.lt_succ_self _)

end TokenReader

/-! ## §2 Nodes that hold what was printed -/

/-- Whether a node is a text without a tag, and is read as this text and nothing else. -/
def Node.saysText (u : Text) : Node → Bool
  -- Without quotes it could be a number, a truth value or nothing at all.
  | .scalar none style t => t == u && (style != .plain || Scalar.value t == .text t)
  | _ => false

namespace Content

mutual

/-- Whether a node holds a value: a truth value as a plain word, a text as such, and a mapping
with everything in it. -/
def heldBy : Content → Node → Bool
  | bool b, .scalar none .plain t => t == if b then "true".toList else "false".toList
  | text u, n => n.saysText u
  | mapping l, .mapping none m => allHeldBy l m
  | _, _ => false

/-- Whether the entries of a node are given ones, in their order. -/
def allHeldBy : List (Text × Content) → List (Node × Node) → Bool
  | [], [] => true
  | (k, v) :: l, (n, m) :: r => n.saysText k && heldBy v m && allHeldBy l r
  | _, _ => false

end

/-- Whether the document that is printed for some entries is read as a single one that holds
them. -/
def survives (entries : List (Text × Content)) : Bool :=
  match firstDocument? (print entries) with
  | some (d, true) => d.root.any (mapping entries).heldBy
  | _ => false

/-- Entries of a node hold given ones in turn. -/
def HeldInTurn (l : List (Text × Content)) (m : List (Node × Node)) : Prop :=
  List.Forall₂ (fun r e => r.1.saysText e.1 = true ∧ e.2.heldBy r.2 = true) m l

theorem heldInTurn_of_allHeldBy {l : List (Text × Content)} {m : List (Node × Node)}
    (h : allHeldBy l m = true) : HeldInTurn l m := by
  induction l generalizing m with
  | nil =>
    cases m with
    | nil => exact .nil
    | cons r m => simp [allHeldBy] at h
  | cons e l ih =>
    cases m with
    | nil => simp [allHeldBy] at h
    | cons r m =>
      obtain ⟨hhead, htail⟩ : (r.1.saysText e.1 = true ∧ e.2.heldBy r.2 = true) ∧
          allHeldBy l m = true := by
        simpa [allHeldBy] using h
      exact .cons hhead (ih htail)

/-- What holds a mapping is a mapping, and its entries hold those of the other in turn. -/
theorem exists_of_heldBy_mapping {l : List (Text × Content)} {n : Node}
    (h : (mapping l).heldBy n = true) :
    ∃ m, n = .mapping none m ∧ HeldInTurn l m := by
  cases n with
  | mapping tag m =>
    cases tag with
    | none => exact ⟨m, rfl, heldInTurn_of_allHeldBy (by simpa [heldBy] using h)⟩
    | some tag => simp [heldBy] at h
  | _ => simp [heldBy] at h

end Content

/-! ## §3 Loading -/

namespace Load

variable {α β : Type}

/-- Loading has this result whatever the document holds, and no alias is followed. -/
def Gives (action : Load α) (a : α) : Prop :=
  ∀ (d : Document) (aliases : Nat), (action.run d).run aliases = .ok (a, aliases)

theorem Gives.pure (a : α) : Gives (Pure.pure a) a := fun _ _ => rfl

theorem Gives.bind {action : Load α} {next : α → Load β} {a : α} {b : β}
    (h : Gives action a) (hnext : Gives (next a) b) : Gives (action >>= next) b := by
  intro d aliases
  show ((action.run d).run aliases >>= fun r => ((next r.1).run d).run r.2) = _
  rw [h d aliases]
  exact hnext d aliases

theorem Gives.lift {result : Except LoadFault α} {a : α} (h : result = .ok a) :
    Gives (liftM result) a := by
  intro d aliases
  rw [h]
  rfl

/-- A list is loaded item by item. -/
theorem Gives.mapM {ι : Type} {f : ι → Load β} {items : List ι} {results : List β}
    (h : List.Forall₂ (fun i b => Gives (f i) b) items results) :
    Gives (items.mapM f) results := by
  induction h with
  | nil => exact .pure _
  | cons hhead _ ih =>
    rw [List.mapM_cons]
    exact hhead.bind (ih.bind (.pure _))

/-- Where loading has a result, that has a property. -/
def Ensures (action : Load α) (P : α → Prop) : Prop :=
  ∀ (d : Document) (aliases left : Nat) (a : α),
    (action.run d).run aliases = .ok (a, left) → P a

theorem Ensures.pure {P : α → Prop} {a : α} (h : P a) : Ensures (Pure.pure a) P := by
  intro d aliases left b hb
  cases hb
  exact h

theorem Ensures.mismatch {P : α → Prop} : Ensures mismatch P := by
  intro d aliases left a h
  cases h

theorem Ensures.bind {action : Load α} {next : α → Load β} {P : α → Prop} {Q : β → Prop}
    (h : Ensures action P) (hnext : ∀ a, P a → Ensures (next a) Q) :
    Ensures (action >>= next) Q := by
  intro d aliases left b hb
  change ((action.run d).run aliases >>= fun r => ((next r.1).run d).run r.2) = _ at hb
  cases haction : (action.run d).run aliases with
  | error fault =>
    rw [haction] at hb
    cases hb
  | ok r =>
    rw [haction] at hb
    exact hnext r.1 (h d aliases r.2 r.1 haction) d r.2 left b hb

/-- Nothing need be known of what is loaded first. -/
theorem Ensures.after {action : Load α} {next : α → Load β} {Q : β → Prop}
    (hnext : ∀ a, Ensures (next a) Q) : Ensures (action >>= next) Q :=
  Ensures.bind (P := fun _ => True) (fun _ _ _ _ _ => trivial) fun a _ => hnext a

/-- What loading ensures of the root of every document holds of what is loaded from a text. -/
theorem Ensures.load {value : Option Node → Load α} {P : α → Prop}
    (h : ∀ root, Ensures (value root) P) {t : Text} {a : α} (hload : Yaml.load value t = .ok a) :
    P a := by
  unfold Yaml.load at hload
  split at hload
  · cases hload
  · next d isLast hdocument =>
    unfold loadDocument at hload
    cases hrun : ((value d.root).run d).run (aliasesPerMark * d.size) with
    | error fault =>
      rw [hrun] at hload
      cases hload
    | ok r =>
      rw [hrun] at hload
      have hr : P r.1 := h d.root d _ r.2 r.1 hrun
      cases isLast with
      | false => cases hload
      | true =>
        cases hload
        exact hr

/-- Only a scalar says a text, and it is not read as anything else. -/
theorem exists_of_saysText {u : Text} {n : Node} (h : n.saysText u = true) :
    ∃ style, n = .scalar none style u ∧ (style = .plain → Scalar.value u = .text u) := by
  unfold Node.saysText at h
  split at h
  · next style t =>
    obtain ⟨rfl, hstyle⟩ : t = u ∧ (style ≠ .plain ∨ Scalar.value t = .text t) := by
      simpa using h
    exact ⟨style, rfl, fun hplain => hstyle.resolve_left (absurd hplain)⟩
  · cases h

theorem text_gives {u : Text} {n : Node} (h : n.saysText u = true) : Gives (text n) u := by
  obtain ⟨style, rfl, -⟩ := exists_of_saysText h
  intro d aliases
  rfl

/-- What says a text is a tree of that text. -/
theorem tree_gives {u : Text} {n : Node} (depth : Nat) (h : n.saysText u = true) :
    Gives (tree depth n) (.text u) := by
  obtain ⟨style, rfl, hplain⟩ := exists_of_saysText h
  have hvalue : Tree.ofScalar? none style u = some (.text u) := by
    unfold Tree.ofScalar?
    dsimp only
    split
    · next hstyle =>
      rw [hplain hstyle]
      rfl
    · rfl
  have hwith (inner : Option (Node → Load Tree)) :
      Gives (treeWith inner (.scalar none style u)) (.text u) := by
    intro d aliases
    show ((untagged inner (.scalar none style u)).run d).run aliases = _
    rw [untagged, ite_self, hvalue]
    rfl
  cases depth with
  | zero => exact hwith none
  | succ depth => exact hwith (some (tree depth))

theorem bool?_gives {b : Bool} {n : Node} (h : (Content.bool b).heldBy n = true) :
    Gives (bool? n) (some b) := by
  cases n with
  | scalar tag style t =>
    cases tag with
    | none =>
      cases style with
      | plain =>
        simp only [Content.heldBy, beq_iff_eq] at h
        rw [h]
        intro d aliases
        cases b with
        | false => rfl
        | true => rfl
      | _ => simp [Content.heldBy] at h
    | some tag => simp [Content.heldBy] at h
  | _ => simp [Content.heldBy] at h

theorem entries_gives (depth : Nat) (m : List (Node × Node)) :
    Gives (entries (depth + 1) (.mapping none m)) (m, depth) := by
  intro d aliases
  rfl

/-- The entries of a table are loaded one by one, if its values are loaded from what holds them. -/
theorem table_gives {value : β → Content} {result : β → α} {load : Node → Load α}
    (hload : ∀ b v, (value b).heldBy v = true → Gives (load v) (result b))
    {table : List (Text × β)} {m : List (Node × Node)}
    (h : Content.HeldInTurn (table.map fun e => (e.1, value e.2)) m) :
    Gives (m.mapM fun r => do return (← text r.1, ← load r.2))
      (table.map fun e => (e.1, result e.2)) := by
  apply Gives.mapM
  unfold Content.HeldInTurn at h
  rw [List.forall₂_map_right_iff] at h ⊢
  apply h.imp
  intro r e hre
  exact (text_gives hre.1).bind ((hload e.2 r.2 hre.2).bind (.pure _))

end Load

end Yaml

end CommentSwitch
