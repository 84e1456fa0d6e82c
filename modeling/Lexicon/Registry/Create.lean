import Lexicon.Generator
import Lexicon.Registry
import Lexicon.Settings.File

/-!
# Lexicon — making registered generators

* `SettingsSource`    — where the settings of a generator are to come from.
* `CreationFault`     — why a generator cannot be made, with `message?`.
* `Registry.create`   — makes the generator that a name stands for.
* `Registry.describe` — what is known of a registered language.
-/

namespace Lexicon

open Lexicon.Source

-- ---------------------------------------------------------------------------
-- Sources of settings
-- ---------------------------------------------------------------------------

/-- Where the settings of a generator are to come from. -/
inductive SettingsSource where
  | defaults
  | given (settings : Settings)
  | file (location : Option Location)
  | changes (fields : Fields)
  | unusable (className : String)
  deriving Inhabited

/-- The source that a value stands for: a text is the name of a file, and a mapping holds
settings. -/
def SettingsSource.ofValue : Value → SettingsSource
  | .null => defaults
  | .text name => file (Settings.fileNamed name)
  | .mapping fields => changes fields
  | value => unusable value.className

/-- Why a generator cannot be made: what is wrong with the settings or with the name, the
latter either before or after work has begun on it. -/
inductive CreationFault where
  | unresolved (fault : RegistryFault)
  | unusable (language className : String)
  | settings (language : String) (fault : SettingsFault)
  | build (language : String) (fault : BuildFault)
  deriving Inhabited

/-- The beginning of the wording of most faults. -/
def CreationFault.opening (language : String) : String :=
  "Failed to create " ++ language ++ " generator: "

/-- The wording of a fault, if it is one that is explained. -/
def CreationFault.message? : CreationFault → Option String
  | unresolved fault => some fault.message
  | unusable language className =>
    some (opening language ++ "Invalid config type: <class '" ++ className ++ "'>")
  | settings language fault => fault.message?.map (opening language ++ ·)
  | build language fault => fault.message?.map (opening language ++ ·)

-- ---------------------------------------------------------------------------
-- Making generators
-- ---------------------------------------------------------------------------

namespace Registry

/-- The settings of a source for a language, which the caller called `name`. -/
def settingsFrom (files : Tree) (name language : String) :
    SettingsSource → Except CreationFault Settings
  | .given settings => .ok settings
  | .defaults => (Settings.load files language none .null).mapError (.settings name)
  | .file location => (Settings.load files language location .null).mapError (.settings name)
  | .changes fields =>
    (Settings.load files language none (.mapping fields)).mapError (.settings name)
  | .unusable className => .error (.unusable name className)

/-- Makes the generator that a name stands for. -/
def create (registry : Registry) (files : Tree) (name : String) (source : SettingsSource) :
    Except CreationFault (GeneratorKind × Generator) := do
  let language ← (registry.resolve name).mapError .unresolved
  let kind ← (registry.kindOf name).mapError .unresolved
  let settings ← settingsFrom files name language source
  let generator ← (Generator.build settings).mapError (.build name)
  return (kind, generator)

/-- What is known of a registered language: its kind of generator, and its aliases. -/
def describe (registry : Registry) (name : String) :
    Except RegistryFault (GeneratorKind × List String) := do
  let language ← registry.resolve name
  let kind ← registry.kindOf name
  return (kind, registry.aliasesOf language)

/-- What is known of every registered language, sorted. -/
def describeAll (registry : Registry) : List (String × GeneratorKind × List String) :=
  registry.languages.filterMap fun language =>
    match registry.describe language with
    | .ok known => some (language, known)
    | .error _ => none

end Registry

end Lexicon
