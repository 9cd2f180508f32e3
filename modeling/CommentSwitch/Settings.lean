import CommentSwitch.Keywords.Registry
import CommentSwitch.Pattern.Matcher
import CommentSwitch.Remap.Remapper
import CommentSwitch.Variables

/-!
# Settings

What a run is configured with.  Settings can be laid over others: variables and
keyword sets win one by one, remap pairs are added in order, and a switch that is
unset leaves the one below in force.

- `Settings.onTopOf`: settings laid over others
- `Settings.validate`: keyword sets and patterns are checked before any file is touched
-/

namespace CommentSwitch

/-- The settings of a run. -/
structure Settings where
  /-- Whether directive lines and lines that are switched off are left out; `none`
  if that is not set. -/
  removeComments : Option Bool
  vars : Variables
  keywords : KeywordRegistry
  remap : RemapTable

namespace Settings

/-! ## §1 Layers -/

/-- Settings in which nothing is set. -/
def standard : Settings := ⟨none, .empty, .empty, .empty⟩

/-- Lays settings over others. -/
def onTopOf (s base : Settings) : Settings where
  removeComments := s.removeComments.or base.removeComments
  vars := base.vars.extend s.vars
  keywords := base.keywords.extend s.keywords
  remap := base.remap.extend s.remap

/-- Whether directive lines and lines that are switched off are left out; they are
not, unless that is set. -/
def strips (s : Settings) : Bool := s.removeComments.getD false

/-! ## §2 Validation -/

/-- What makes settings unusable. -/
inductive Defect
  | keywords (d : KeywordRegistry.Defect)
  | pattern (u : UnusablePattern)
  deriving DecidableEq, Repr

/-- The wording of a defect. -/
def Defect.text : Defect → Text
  | keywords d => d.text
  | pattern u => u.text

/-- Checks the keyword sets, then the patterns. -/
def validate (s : Settings) : Except Defect Unit := do
  s.keywords.validate.mapError .keywords
  let _ ← (Remapper.ofTable Matcher.ofText? s.remap).mapError .pattern
  return ()

end Settings

end CommentSwitch
