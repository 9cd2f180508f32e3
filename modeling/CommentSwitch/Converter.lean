import CommentSwitch.Conversion.Convert
import CommentSwitch.Settings

/-!
# Converters

Settings made ready for converting: directives are resolved first, then the remap
table is applied to every line that is left.

- `Converter.convertLines`: the conversion of the lines of a file
- `Converter.length_convertLines`: remapping changes no number of lines
-/

namespace CommentSwitch

/-- Settings ready for converting. -/
structure Converter where
  conversion : Conversion
  remapper : Remapper Matcher

namespace Converter

/-- The converter of some settings, or the first pattern that can not be read. -/
def ofSettings (s : Settings) : Except UnusablePattern Converter := do
  return ⟨⟨s.vars, s.keywords, s.strips⟩, ← Remapper.ofTable Matcher.ofText? s.remap⟩

/-- Converts the lines of a file.  The name of the file selects the keywords and is
mentioned in diagnostics. -/
def convertLines (c : Converter) (file : Option Text) (lines : List Text) :
    Except Diagnostic (List Text) := do
  return c.remapper.remapLines Matcher.replaceAll (← c.conversion.convert file lines)

/-- Remapping keeps the number of lines that the directives leave. -/
theorem length_convertLines {c : Converter} {file : Option Text} {lines out : List Text}
    (h : c.convertLines file lines = .ok out) :
    ∃ converted, c.conversion.convert file lines = .ok converted
      ∧ out.length = converted.length := by
  rw [convertLines] at h
  cases hc : c.conversion.convert file lines with
  | error d => rw [hc] at h; cases h
  | ok converted =>
    rw [hc] at h
    cases h
    exact ⟨converted, rfl, Remapper.length_remapLines _ _ _⟩

end Converter

end CommentSwitch
