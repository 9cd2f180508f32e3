import CommentSwitch.Text.Blank

/-!
# Tagged lines

A line of code is switched off by a tag behind its indentation, and switched on
by taking the tag away.

- `Tag.uncomment`: the line without its tag
- `Tag.comment`: the line with a tag at the indentation of its branch
-/

namespace CommentSwitch

namespace Tag

/-- Drops one ordinary space at the start. -/
def dropSpace : Text → Text
  | ' ' :: rest => rest
  | t => t

/-- Takes away the tag behind the leading blank, and one space after it. -/
def uncomment (tag line : Text) : Text :=
  Text.leadingBlank line ++ dropSpace ((Text.trimStart line).drop tag.length)

/-- Switches a line off within a branch that is indented by `indent`.  A blank line
becomes a bare tag.  A line that is tagged already, or that starts left of the
branch, stays as it is.  Any other line gets the tag and a space at the indentation
of the branch, in place of that many of its characters. -/
def comment (tag : Text) (indent : Nat) (line : Text) : Text :=
  let trimmed := Text.trim line
  -- A blank line keeps no blank of its own.
  if trimmed.isEmpty then Text.spaces indent ++ tag
  else if !Text.startsWith tag trimmed && decide (indent ≤ Text.indentation line) then
    Text.spaces indent ++ tag ++ ' ' :: line.drop indent
  else line

end Tag

end CommentSwitch
