import Lexicon.Encoding.Unicode
import Lexicon.Json.Reader
import Lexicon.Json.Writer
import Lexicon.Settings.Merge
import Lexicon.Source.Tree
import Lexicon.Yaml.Reader
import Lexicon.Yaml.Writer

/-!
# Lexicon — settings in files

* `SettingsFault`      — why settings cannot be had or kept, with `message?`.
* `Settings.fieldsIn`  — the settings that the text of a file gives.
* `Settings.fromFile`  — the settings in a file.
* `Settings.load`      — the settings for a language, with those of a file and those of
                         the caller over its defaults.
* `Settings.save`      — writes settings to a file.

A file is read as JSON if it can be, else as YAML, whatever its name; what is written
depends on the extension.
-/

namespace Lexicon

open Lexicon.Source

/-- Why settings cannot be had or kept. -/
inductive SettingsFault where
  | missing (path : String)
  | unreadable (path : String) (fault : FileFault)
  | undecodable
  | malformed (path : String)
  | notMapping (path : String)
  | unwritable (path : String) (fault : FileFault)
  | mismatch (fault : Mismatch)
  deriving DecidableEq, Repr, Inhabited

/-- The wording of a fault, if it is one that is explained. -/
def SettingsFault.message? : SettingsFault → Option String
  | missing path => some ("Configuration file not found: " ++ path)
  | unreadable path fault =>
    some ("Failed to read configuration file " ++ path ++ ": " ++ fault.message)
  | undecodable => none
  | malformed path => some ("Configuration file " ++ path ++ " is neither JSON nor YAML")
  | notMapping path => some ("Configuration file must contain a mapping: " ++ path)
  | unwritable path fault =>
    some ("Failed to save configuration to " ++ path ++ ": " ++ fault.message)
  | mismatch _ => none

namespace Settings

-- ---------------------------------------------------------------------------
-- Reading
-- ---------------------------------------------------------------------------

/-- Reads a text as JSON, or else as YAML. -/
def readText (text : List Char) : Option Value :=
  match Json.read (String.ofList text) with
  | .ok value => some value
  | .error _ => Yaml.read text

/-- The settings that the text of a file gives. A file that holds nothing gives none. -/
def fieldsIn (path : String) (text : List Char) : Except SettingsFault Fields :=
  match readText text with
  | none => .error (.malformed path)
  | some .null => .ok []
  | some (.mapping entries) => .ok entries
  | some _ => .error (.notMapping path)

/-- The settings in a file. -/
def fromFile (files : Tree) (location : Location) : Except SettingsFault Fields :=
  let path := location.text
  match files.find location with
  | none => .error (.missing path)
  | some .directory => .error (.unreadable path (.isDirectory path))
  | some (.file bytes) =>
    match Encoding.fileText bytes with
    | .error _ => .error .undecodable
    | .ok text => fieldsIn path text

/-- The file that a name stands for; an empty name stands for none. -/
def fileNamed (name : String) : Option Location :=
  if name == "" then none else some (Location.read name)

/-- The settings for a language, with those of a file and those of the caller over its
defaults. -/
def load (files : Tree) (language : String) (file : Option Location) (changes : Value) :
    Except SettingsFault Settings := do
  let fields ← match file with
    | none => .ok []
    | some location => fromFile files location
  match combine language fields changes with
  | .ok settings => return settings
  | .error fault => .error (.mismatch fault)

-- ---------------------------------------------------------------------------
-- Writing
-- ---------------------------------------------------------------------------

/-- Does the extension stand for YAML? -/
def isYamlExtension (extension : String) : Bool :=
  extension == ".yaml" || extension == ".yml"

/-- The text of settings in a file of some extension. -/
def textFor (extension : String) (fields : Fields) : String :=
  if isYamlExtension extension then Yaml.write fields else Json.write (.mapping fields)

/-- Writes settings to a file. -/
def save (files : Tree) (settings : Settings) (location : Location) :
    Except SettingsFault Tree := do
  match settings.flat with
  | .error fault => .error (.mismatch fault)
  | .ok fields =>
    match files.write location (Encoding.Utf8.encode (textFor location.extension fields)) with
    | .error fault => .error (.unwritable location.text fault)
    | .ok files => return files

end Settings

end Lexicon
