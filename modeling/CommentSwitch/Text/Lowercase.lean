import CommentSwitch.Text.LetterCase

/-!
# Lower case

Lower-casing a whole text.  Every character has one lower-case form, except the
capital sigma: at the end of a word it becomes the final sigma.

- `Text.lower`: the lower-case form of a text
-/

namespace CommentSwitch

namespace Text

/-- Whether the first character that is not passed over has a case. -/
def nextIsCased (t : Text) : Bool :=
  match t.dropWhile isCaseIgnorable with
  | [] => false
  | c :: _ => isCased c

/-- Lower-cases a text whose characters `before`, in reverse, have been read. -/
def lowerAfter (before : Text) : Text → Text
  | [] => []
  | c :: rest =>
    let lowered :=
      if c = 'Σ' then
        if nextIsCased before && !nextIsCased rest then ['ς'] else ['σ']
      else lowerChar c
    lowered ++ lowerAfter (c :: before) rest

/-- The lower-case form of a text. -/
def lower (t : Text) : Text := lowerAfter [] t

end Text

end CommentSwitch
