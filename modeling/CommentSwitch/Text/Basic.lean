/-!
# Text

A text is a list of characters.  Names, values, keyword tokens, lines and path
segments are all texts, so that every statement about them is a statement about
lists.  Strings appear only where the program meets its surroundings.

This module holds the operations that belong to no character class:

- `Text.ofString`, `Text.asString`: packing and unpacking
- `Text.afterToken?`: what follows a token at the start of a text
- `Text.cutAt`, `Text.cutAtTwin`: cutting at a character or at a doubled one
- `Text.cutOnce?`: cutting at the first occurrence of a character
-/

namespace CommentSwitch

/-- A text is a list of characters. -/
abbrev Text := List Char

namespace Text

/-! ## §1 Strings -/

/-- The characters of a string. -/
def ofString (s : String) : Text := s.toList

/-- The string with the given characters. -/
def asString (t : Text) : String := String.ofList t

@[simp] theorem ofString_asString (t : Text) : ofString (asString t) = t :=
  String.toList_ofList

@[simp] theorem asString_ofString (s : String) : asString (ofString s) = s :=
  String.ofList_toList

/-! ## §2 Tokens -/

/-- What follows `token` when the text starts with it. -/
def afterToken? : (token text : Text) → Option Text
  | [], text => some text
  | _ :: _, [] => none
  | a :: token, b :: text => if a = b then afterToken? token text else none

theorem afterToken?_eq_some_iff {token text rest : Text} :
    afterToken? token text = some rest ↔ text = token ++ rest := by
  induction token generalizing text with
  | nil => simp [afterToken?, eq_comm]
  | cons a token ih =>
    cases text with
    | nil => simp [afterToken?]
    | cons b text =>
      by_cases h : a = b
      · simp [afterToken?, h, ih]
      · have h' : ¬ b = a := fun e => h e.symm
        simp [afterToken?, h, h']

/-- Whether the text starts with `token`. -/
def startsWith (token text : Text) : Bool := token.isPrefixOf text

theorem startsWith_iff {token text : Text} :
    startsWith token text = true ↔ token <+: text := by
  simp [startsWith]

/-! ## §3 Cutting and joining -/

/-- Puts a character in front of the first piece. -/
def consFirst (c : Char) : List Text → List Text
  | [] => [[c]]
  | piece :: pieces => (c :: piece) :: pieces

/-- Cuts a text at every occurrence of `sep`; there is always at least one piece. -/
def cutAt (sep : Char) : Text → List Text
  | [] => [[]]
  | c :: rest => if c = sep then [] :: cutAt sep rest else consFirst c (cutAt sep rest)

/-- Cuts a text at every doubled `c`, reading from the left without overlap:
`x|||y` has the two pieces `x` and `|y`. -/
def cutAtTwin (c : Char) : Text → List Text
  | [] => [[]]
  | [a] => [[a]]
  | a :: b :: rest =>
    if a = c ∧ b = c then [] :: cutAtTwin c rest
    else consFirst a (cutAtTwin c (b :: rest))

/-- Cuts a text at the first occurrence of `sep`, which belongs to neither part. -/
def cutOnce? (sep : Char) : Text → Option (Text × Text)
  | [] => none
  | c :: rest =>
    if c = sep then some ([], rest)
    else (cutOnce? sep rest).map fun (before, after) => (c :: before, after)

theorem cutAt_ne_nil (sep : Char) (t : Text) : cutAt sep t ≠ [] := by
  cases t with
  | nil => simp [cutAt]
  | cons c rest =>
    unfold cutAt
    split
    · simp
    · cases cutAt sep rest <;> simp [consFirst]

/-- Joining the pieces of a text with the separator gives the text back. -/
theorem intercalate_cutAt (sep : Char) (t : Text) :
    [sep].intercalate (cutAt sep t) = t := by
  induction t with
  | nil => rfl
  | cons c rest ih =>
    rw [cutAt]
    cases h : cutAt sep rest with
    | nil => exact absurd h (cutAt_ne_nil sep rest)
    | cons piece pieces =>
      rw [h] at ih
      split
      · next e => rw [List.intercalate_cons_cons, ih, e]; rfl
      · cases pieces with
        | nil => simpa [consFirst] using ih
        | cons p ps =>
          rw [List.intercalate_cons_cons] at ih
          simp only [consFirst, List.intercalate_cons_cons, List.cons_append, ih]

end Text

end CommentSwitch
