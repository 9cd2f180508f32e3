import CommentSwitch.Files.FileSystem
import CommentSwitch.Settings.Loading

/-!
# Chains of configuration files

A configuration file may name a base, whose settings lie beneath its own; the base may name
a base in turn.  A chain is followed for a limited number of files, so that it ends even if
a file is its own base.

- `Settings.ofChain`: the settings of a file and all its bases
- `Settings.find`: the settings of a run, from a given file or from the usual places
-/

namespace CommentSwitch

/-- Why no settings are found. -/
inductive SettingsFault
  /-- The file that was asked for is not there. -/
  | fileMissing (file : Path)
  | chainTooLong (file : Path)
  | unreadable (file : Path)
  | malformed (file : Path)
  | baseMissing (name : Text)
  deriving DecidableEq, Repr

namespace Settings

/-- How many bases may follow a file. -/
def baseLimit : Nat := 16

end Settings

/-- The wording of a fault. -/
def SettingsFault.text : SettingsFault → Text
  | fileMissing file => Text.ofString "Config file not found: " ++ file.text
  | chainTooLong file =>
    Text.ofString "Config extends chain is deeper than " ++ Text.ofNat Settings.baseLimit
      ++ Text.ofString " at " ++ file.text
  | unreadable file => Text.ofString "Failed to read config file: " ++ file.text
  | malformed file => Text.ofString "Failed to parse config file: " ++ file.text
  | baseMissing name =>
    Text.ofString "Base configuration '" ++ name ++ Text.ofString "' not found"

namespace Settings

/-! ## §1 Chains -/

/-- The name of the base that holds nothing. -/
def standardName : Text := "default".toList

/-- The file of a base that is named in another file: beside that one, unless the name
starts at the root. -/
def baseFile (file : Path) (name : Text) : Path := (file.parent?.getD .here).join (.ofText name)

/-- What a file says. -/
def fileAt (read? : Text → Option SettingsFile) (fs : FileSystem) (file : Path) :
    Except SettingsFault SettingsFile :=
  match fs.textAt file with
  | .error _ => .error (.unreadable file)
  | .ok t =>
    match read? t with
    | none => .error (.malformed file)
    | some said => .ok said

/-- The settings of a file, laid over those of its bases; at most `files` files are read. -/
def ofChain (read? : Text → Option SettingsFile) (fs : FileSystem) :
    (files : Nat) → Path → Except SettingsFault Settings
  | 0, file => .error (.chainTooLong file)
  | files + 1, file => do
    let said ← fileAt read? fs file
    match said.base with
    | none => return said.settings
    | some name =>
      -- This name never stands for a file.
      if name = standardName then return said.settings.onTopOf .standard
      else
        let base := baseFile file name
        if fs.isThere base then return said.settings.onTopOf (← ofChain read? fs files base)
        else throw (.baseMissing name)

/-! ## §2 Places -/

/-- The files that are looked for if none is given, in order. -/
def usualFiles : List Path :=
  [".preproc.yaml", ".preproc.yml", "preproc.yaml", "preproc.yml"].map fun name =>
    .ofText name.toList

/-- The file of a user, beneath the home directory. -/
def userFile (home : Path) : Path :=
  home.along [".config".toList, "preproc".toList, "config.yaml".toList]

/-- The settings of a run: those of the given file, or of the first usual file that is
there, or of the user.  Only a file that was given has to be there. -/
def find (read? : Text → Option SettingsFile) (fs : FileSystem) (home : Path)
    (given : Option Path) : Except SettingsFault Settings :=
  let file := given.getD ((usualFiles.find? (fs.isThere ·)).getD (userFile home))
  -- The file itself counts as well, hence one more than the bases.
  if fs.isThere file then ofChain read? fs (baseLimit + 1) file
  else if given.isSome then .error (.fileMissing file)
  else .ok .standard

/-- The settings of a run, from files as they are written. -/
def load (fs : FileSystem) (home : Path) (given : Option Path) :
    Except SettingsFault Settings :=
  find (fun t => (SettingsFile.load t).toOption) fs home given

end Settings

end CommentSwitch
