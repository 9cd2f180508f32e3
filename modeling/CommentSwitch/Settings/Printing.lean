import CommentSwitch.Settings
import CommentSwitch.Yaml.Printer

/-!
# Printing settings

Settings as a document that can be read back.

- `Settings.content`: the document of some settings
- `Settings.print`, `RemapTable.print`: its text
-/

namespace CommentSwitch

open Yaml (Content)

/-- Variables as a mapping. -/
def Variables.content (vars : Variables) : Content :=
  .mapping (vars.entries.map fun e => (e.1, .text e.2))

/-- A keyword set as a mapping. -/
def Keywords.content (k : Keywords) : Content :=
  .mapping (k.inOrder.map fun e => (e.1.name, .text e.2))

/-- Keyword sets as a mapping. -/
def KeywordRegistry.content (r : KeywordRegistry) : Content :=
  .mapping (r.entries.map fun e => (e.1, e.2.content))

namespace RemapTable

/-- The entries of remap pairs. -/
def contents (t : RemapTable) : List (Text × Content) :=
  t.entries.map fun e => (e.1, .text e.2)

/-- Remap pairs as a document. -/
def print (t : RemapTable) : Text := Content.print t.contents

end RemapTable

namespace Settings

/-- The fields of settings; a switch that is unset is left out. -/
def content (s : Settings) : List (Text × Content) :=
  (match s.removeComments with
    | none => []
    | some b => [("remove-comments".toList, .bool b)])
  ++ [("vars".toList, s.vars.content), ("keywords".toList, s.keywords.content),
    ("remap".toList, .mapping s.remap.contents)]

/-- Settings as a document. -/
def print (s : Settings) : Text := Content.print s.content

end Settings

end CommentSwitch
