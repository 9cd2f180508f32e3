import CommentSwitch.Text.Basic

/-!
# Lines of a content

A content is cut into lines at line feeds; a carriage return just before a line
feed belongs to the line end.  A last line without line feed keeps everything it
has.  Lines are written back with one line feed each.

- `Text.lines`: the lines of a content
- `Text.unlines`: the content with given lines
-/

namespace CommentSwitch

namespace Text

/-- Drops one carriage return at the end. -/
def dropReturn (line : Text) : Text :=
  if line.getLast? = some '\r' then line.dropLast else line

/-- The lines of a content whose current line has begun with `start`, in reverse. -/
def linesFrom (start : Text) : Text → List Text
  | [] => if start.isEmpty then [] else [start.reverse]
  | c :: rest =>
    if c = '\n' then dropReturn start.reverse :: linesFrom [] rest
    else linesFrom (c :: start) rest

/-- The lines of a content. -/
def lines (content : Text) : List Text := linesFrom [] content

/-- The content with the given lines, each ended by a line feed. -/
def unlines (ls : List Text) : Text := ls.flatMap (· ++ ['\n'])

end Text

end CommentSwitch
