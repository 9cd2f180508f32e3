import CommentSwitch.Dictionary

/-!
# Variables

The variables that conditions refer to.  A value is kept as text; a condition
decides for itself whether it reads the value as an integer.

- `Variables.resolve_of_defined`, `Variables.resolve_of_undefined`: what a token stands for
-/

namespace CommentSwitch

/-- The variables of a run, with their values as texts. -/
abbrev Variables := Dictionary Text Text

namespace Variables

/-- What a token stands for: the value of the variable it names, else itself. -/
def resolve (vars : Variables) (token : Text) : Text := (vars.get? token).getD token

theorem resolve_of_defined {vars : Variables} {token value : Text}
    (h : vars.get? token = some value) : vars.resolve token = value := by
  simp [resolve, h]

theorem resolve_of_undefined {vars : Variables} {token : Text}
    (h : vars.get? token = none) : vars.resolve token = token := by
  simp [resolve, h]

end Variables

end CommentSwitch
