import Lexicon.Generator
import Lexicon.Settings.Merge

/-!
# Lexicon — generators by purpose

* `Generator.configured` — the generator for changes of the default settings.
* `Generator.serde`      — declarations that serialize on their own.
* `Generator.snakeCase`  — field names in small letters with underscores.
-/

namespace Lexicon.Generator

/-- The generator for changes of the default settings. -/
def configured (changes : Value) : Except BuildFault Generator :=
  match Settings.combine language [] changes with
  | .error fault => .error (.mismatch fault)
  | .ok settings => build settings

/-- The generator for declarations that serialize on their own: with the declarations they
use, without what is empty, and with records as declarations. -/
def serde : Except BuildFault Generator :=
  configured (.mapping
    [("emit_prelude", .bool true), ("skip_serializing_none", .bool true),
     ("expand_records", .bool true)])

/-- The generator for field names in small letters with underscores. -/
def snakeCase : Except BuildFault Generator :=
  configured (.mapping [("field_case", .text "snake")])

end Lexicon.Generator
