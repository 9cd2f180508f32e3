import CommentSwitch.Files.Path
import CommentSwitch.Json.Printer
import CommentSwitch.Json.Reader

/-!
# Outcomes

What has become of a file: its lines were transformed, or it was copied as it is.

- `Outcome.text`: an outcome in words
- `Outcome.json`, `Outcome.ofJson?`: an outcome as JSON, and back
-/

namespace CommentSwitch

/-- What has become of a file. -/
inductive Outcome
  | transformed (linesIn linesOut : Nat)
  /-- Copied as it is, for a reason. -/
  | copied (reason : Text)
  deriving DecidableEq, Repr

/-- The outcome for a file and the file that was written. -/
structure FileReport where
  input : Path
  output : Path
  outcome : Outcome
  deriving DecidableEq, Repr

namespace Outcome

/-- Whether a file was copied as it is. -/
def isCopied : Outcome → Bool
  | transformed _ _ => false
  | copied _ => true

/-- An outcome in words. -/
def text : Outcome → Text
  | transformed linesIn linesOut =>
    let count :=
      if linesIn = linesOut then Text.ofNat linesIn
      else Text.ofNat linesIn ++ Text.ofString " -> " ++ Text.ofNat linesOut
    Text.ofString "transformed (" ++ count ++ Text.ofString " lines)"
  | copied reason => Text.ofString "copied (" ++ reason ++ [')']

/-! ## §1 Writing -/

/-- The name of an outcome. -/
def name : Outcome → Text
  | transformed _ _ => Text.ofString "transformed"
  | copied _ => Text.ofString "copied"

/-- An outcome as JSON. -/
def json (o : Outcome) : Json :=
  .object <| (Text.ofString "kind", .text o.name) ::
    match o with
    | transformed linesIn linesOut =>
      [(Text.ofString "lines_in", .number linesIn), (Text.ofString "lines_out", .number linesOut)]
    | copied reason => [(Text.ofString "reason", .text reason)]

/-! ## §2 Reading -/

/-- The value of a field that is given exactly once. -/
def field? (name : String) (fields : List (Text × JsonValue)) : Option JsonValue :=
  match fields.filter fun e => e.1 = name.toList with
  -- A field that is given twice is as bad as none.
  | [(_, v)] => some v
  | _ => none

/-- A number that is a count. -/
def count? : JsonValue → Option Nat
  | .natural n => some n
  | _ => none

/-- A value that is a text. -/
def text? : JsonValue → Option Text
  | .text t => some t
  | _ => none

/-- The outcome that some fields describe; fields that are not known are ignored. -/
def ofFields? (fields : List (Text × JsonValue)) : Option Outcome := do
  match (← text? (← field? "kind" fields)).asString with
  | "transformed" =>
    return transformed (← count? (← field? "lines_in" fields))
      (← count? (← field? "lines_out" fields))
  | "copied" => return copied (← text? (← field? "reason" fields))
  | _ => none

/-- The outcome that a list describes: its name, then the values of its fields. -/
def ofItems? : List JsonValue → Option Outcome
  | [.text name, .natural linesIn, .natural linesOut] =>
    if name = Text.ofString "transformed" then some (transformed linesIn linesOut) else none
  | [.text name, .text reason] =>
    if name = Text.ofString "copied" then some (copied reason) else none
  | _ => none

/-- The outcome that a JSON text describes. -/
def ofJson? (t : Text) : Option Outcome := do
  match ← JsonValue.read? t with
  | .object fields => ofFields? fields
  | .array items => ofItems? items
  | _ => none

end Outcome

end CommentSwitch
