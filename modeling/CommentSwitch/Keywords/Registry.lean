import CommentSwitch.Dictionary
import CommentSwitch.Keywords.Basic
import CommentSwitch.Text.Blank
import CommentSwitch.Text.Lowercase

/-!
# Keyword registry

Keyword sets for kinds of files.  A set is registered under a file extension, and
a file takes the set of the longest registered extension its name ends with, or
the standard one.

- `KeywordRegistry.normalExtension`: the form in which extensions are registered
- `KeywordRegistry.forFile`: the keywords for a file name
-/

namespace CommentSwitch

/-- Keyword sets by normalised file extension. -/
abbrev KeywordRegistry := Dictionary Text Keywords

namespace KeywordRegistry

/-! ## §1 Registration -/

/-- An extension without surrounding blank and leading dots, in lower case. -/
def normalExtension (extension : Text) : Text :=
  Text.lower ((Text.trim extension).dropWhile (· == '.'))

/-- Registers keywords for an extension such as `json`, `.json` or `d.ts`. -/
def register (r : KeywordRegistry) (extension : Text) (k : Keywords) : KeywordRegistry :=
  r.insert (normalExtension extension) k

/-- Registers a list of sets in turn. -/
def ofList (sets : List (Text × Keywords)) : KeywordRegistry :=
  sets.foldl (fun r e => r.register e.1 e.2) Dictionary.empty

/-! ## §2 Look-up by file name -/

/-- What follows each dot of a text, longest first. -/
def afterDots : Text → List Text
  | [] => []
  | c :: rest => if c = '.' then rest :: afterDots rest else afterDots rest

/-- The extensions of a file name, longest first; a dot at its start begins none. -/
def extensions (name : Text) : List Text := afterDots (name.drop 1)

/-- The form in which a file name is looked up. -/
def normalName (name : Text) : Text := Text.lower (Text.trim name)

/-- The keywords for a file: the set of its longest registered extension. -/
def forFile (r : KeywordRegistry) (file : Option Text) : Keywords :=
  match file with
  | none => Keywords.standard
  | some name => ((extensions (normalName name)).findSome? r.get?).getD Keywords.standard

/-! ## §3 Validation -/

/-- A registered set with a defect. -/
structure Defect where
  extension : Text
  defect : Keywords.Defect
  deriving DecidableEq, Repr

/-- The wording of a defect in a registry. -/
def Defect.text (d : Defect) : Text :=
  Text.ofString "Invalid keywords for extension '" ++ d.extension ++ Text.ofString "': "
    ++ d.defect.text

/-- Checks every registered set, in the order of the extensions. -/
def validate (r : KeywordRegistry) : Except Defect Unit :=
  r.entries.forM fun (extension, k) =>
    match k.validate with
    | .ok () => .ok ()
    | .error d => .error ⟨extension, d⟩

end KeywordRegistry

end CommentSwitch
