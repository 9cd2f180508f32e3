import CommentSwitch.Pattern.Notation
import CommentSwitch.Pattern.Replacement
import CommentSwitch.Pattern.Search

/-!
# Matchers

A pattern that has been read, ready to search texts and to replace what it matches.

- `Matcher.ofText?`: the matcher of a written pattern
- `Matcher.replaceAll`: a text with every match replaced
-/

namespace CommentSwitch

/-- A pattern ready for searching. -/
structure Matcher where
  program : Program
  names : GroupNames

namespace Matcher

/-- The matcher of a written pattern, if that is one. -/
def ofText? (t : Text) : Option Matcher :=
  (PatternReader.read? t).map fun (p, names) => ⟨.ofPattern p, names⟩

/-- The characters from one place of a text to another. -/
def slice (text : Array Char) (start stop : Nat) : Text := (text.extract start stop).toList

/-- What a group matched; nothing if there is no such group or it had no part in the
match. -/
def groupText (text : Array Char) (m : Slots) (index : Nat) : Text :=
  match m.place? (2 * index), m.place? (2 * index + 1) with
  | some start, some stop => slice text start stop
  | _, _ => []

/-- What a part of a replacement stands for. -/
def partText (names : GroupNames) (text : Array Char) (m : Slots) : ReplacementPart → Text
  | .literal c => [c]
  | .group index => groupText text m index
  | .named name =>
    match names.lookup name with
    | some index => groupText text m index
    | none => []

/-- The text from a place on, with the given matches replaced. -/
def substitute (names : GroupNames) (parts : List ReplacementPart) (text : Array Char) :
    (start : Nat) → List Slots → Text
  | start, [] => slice text start text.size
  | start, m :: matches_ =>
    slice text start m.start ++ parts.flatMap (partText names text m)
      ++ substitute names parts text m.stop matches_

/-- The text with every match replaced. -/
def replaceAll (matcher : Matcher) (replacement : Text) (t : Text) : Text :=
  let text := t.toArray
  substitute matcher.names (Replacement.read replacement) text 0 (matcher.program.findAll text)

end Matcher

end CommentSwitch
