import CommentSwitch.Settings
import CommentSwitch.Yaml.Load

/-!
# Settings in documents

What a configuration file says, and how it is read from a document: variables, keyword
sets, remap pairs, and the settings that hold them.  A field that is not known is ignored,
and a field that is given twice is an error.

- `SettingsFile.load`: what a configuration file says
- `Variables.load`, `KeywordRegistry.load`, `RemapTable.load`: its parts
-/

namespace CommentSwitch

open Yaml (Node Load LoadFault Tree)

/-! ## §1 Variables -/

namespace Variables

/-- The text of a value, if it is a text, a number or a truth value. -/
def valueText? : Tree → Option Text
  | .text t => some t
  | .number n => some n.text
  | .bool b => some (if b then "true".toList else "false".toList)
  | _ => none

/-- What is said of a variable whose value has no text. -/
def unusableText (name : Text) : Text :=
  Text.ofString "variable '" ++ name ++ Text.ofString "' must be a string, number or boolean"

/-- The texts of values; the first one that has none, in the order of the names, is named. -/
def ofTrees (values : List (Text × Tree)) : Except LoadFault Variables := do
  let texts ← values.mapM fun (name, value) =>
    match valueText? value with
    | some t => .ok (name, t)
    | none => .error (.unusable name)
  return .ofList texts

/-- Reads variables from the entries of a mapping. -/
def ofEntries (l : List (Node × Node)) (depth : Nat) : Load Variables := do
  let values ← l.mapM fun (k, v) => do return (← Load.text k, ← Load.tree depth v)
  -- A repeated name keeps its last value before the values are looked at.
  liftM (ofTrees (Dictionary.ofList values).entries)

/-- Reads variables from a node. -/
def load (depth : Nat) (n : Node) : Load Variables := do
  let (l, depth) ← Load.entries depth n
  ofEntries l depth

/-- Reads variables from the root of a document. -/
def loadRoot (root : Option Node) : Load Variables := do
  let (l, depth) ← Load.rootEntries root
  ofEntries l depth

end Variables

/-! ## §2 Keyword sets -/

namespace Keywords

/-- The role that a field is named for. -/
def roleNamed? (name : Text) : Option Role := Role.all.find? fun r => r.name = name

/-- Reads a field of a set behind others; a field of another name is ignored. -/
def loadToken (tokens : List (Role × Text)) (k v : Node) : Load (List (Role × Text)) := do
  match roleNamed? (← Load.text k) with
  -- A field that names no role is passed over.
  | none => return tokens
  | some role =>
    if (tokens.lookup role).isSome then Load.mismatch
    else return (role, ← Load.text v) :: tokens

/-- Reads the tokens of a set, latest first. -/
def loadTokens (l : List (Node × Node)) : Load (List (Role × Text)) :=
  l.foldlM (fun tokens (k, v) => loadToken tokens k v) []

/-- The set with the given tokens, if every role has one. -/
def ofTokens? (tokens : List (Role × Text)) : Option Keywords := do
  return ⟨← tokens.lookup .ifRole, ← tokens.lookup .elseifRole, ← tokens.lookup .elseRole,
    ← tokens.lookup .endifRole, ← tokens.lookup .evalRole⟩

/-- Reads a keyword set. -/
def load (depth : Nat) (n : Node) : Load Keywords := do
  let (l, _) ← Load.entries depth n
  match ofTokens? (← loadTokens l) with
  | some k => return k
  | none => Load.mismatch

end Keywords

namespace KeywordRegistry

/-- Reads keyword sets from the entries of a mapping. -/
def ofEntries (l : List (Node × Node)) (depth : Nat) : Load KeywordRegistry := do
  let sets ← l.mapM fun (k, v) => do return (← Load.text k, ← Keywords.load depth v)
  return ofList (Dictionary.ofList sets).entries

/-- Reads keyword sets from a node. -/
def load (depth : Nat) (n : Node) : Load KeywordRegistry := do
  let (l, depth) ← Load.entries depth n
  ofEntries l depth

/-- Reads keyword sets from the root of a document. -/
def loadRoot (root : Option Node) : Load KeywordRegistry := do
  let (l, depth) ← Load.rootEntries root
  ofEntries l depth

end KeywordRegistry

/-! ## §3 Remap pairs -/

namespace RemapTable

/-- Reads remap pairs from the entries of a mapping. -/
def ofEntries (l : List (Node × Node)) : Load RemapTable := do
  return ofList (← l.mapM fun (k, v) => do return (← Load.text k, ← Load.text v))

/-- Reads remap pairs from a node. -/
def load (depth : Nat) (n : Node) : Load RemapTable := do
  let (l, _) ← Load.entries depth n
  ofEntries l

/-- Reads remap pairs from the root of a document. -/
def loadRoot (root : Option Node) : Load RemapTable := do
  let (l, _) ← Load.rootEntries root
  ofEntries l

end RemapTable

/-! ## §4 Configuration files -/

/-- What a configuration file says. -/
structure SettingsFile where
  /-- The name of the configuration that the settings are laid over. -/
  base : Option Text
  settings : Settings

namespace SettingsFile

/-- A file that says nothing. -/
def empty : SettingsFile := ⟨none, .standard⟩

/-- The fields of a configuration file. -/
inductive Field
  | base | removeComments | vars | keywords | remap
  deriving DecidableEq, Repr

/-- The name of a field. -/
def Field.name : Field → Text
  | base => "extends".toList
  | removeComments => "remove-comments".toList
  | vars => "vars".toList
  | keywords => "keywords".toList
  | remap => "remap".toList

/-- All fields. -/
def Field.all : List Field := [.base, .removeComments, .vars, .keywords, .remap]

/-- The field of a name. -/
def Field.named? (name : Text) : Option Field := all.find? fun f => f.name = name

/-- Reads a field. -/
def loadField (file : SettingsFile) (depth : Nat) (n : Node) : Field → Load SettingsFile
  | .base => do return { file with base := ← Load.text? n }
  | .removeComments => do
    return { file with settings := { file.settings with removeComments := ← Load.bool? n } }
  | .vars => do
    return { file with settings := { file.settings with vars := ← Variables.load depth n } }
  | .keywords => do
    return { file with settings :=
      { file.settings with keywords := ← KeywordRegistry.load depth n } }
  | .remap => do
    return { file with settings := { file.settings with remap := ← RemapTable.load depth n } }

/-- Reads fields, of which some have been seen. -/
def loadFields (depth : Nat) : (seen : List Field) → SettingsFile → List (Node × Node) →
    Load SettingsFile
  | _, file, [] => return file
  | seen, file, (k, v) :: l => do
    match Field.named? (← Load.text k) with
    -- The value of a field that is not known is not read.
    | none => loadFields depth seen file l
    | some field =>
      if field ∈ seen then Load.mismatch
      else loadFields depth (field :: seen) (← loadField file depth v field) l

/-- Reads what a configuration file says from the root of a document. -/
def loadRoot (root : Option Node) : Load SettingsFile := do
  let (l, depth) ← Load.rootEntries root
  loadFields depth [] empty l

/-- Reads a configuration file. -/
def load (t : Text) : Except LoadFault SettingsFile := Yaml.load loadRoot t

end SettingsFile

end CommentSwitch
