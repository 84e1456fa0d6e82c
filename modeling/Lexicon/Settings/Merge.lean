import Lexicon.Settings.Basic

/-!
# Lexicon — settings from several sources

Settings are put together from the defaults of a language, a settings file and what
the caller sets; what comes later wins.

* `Settings.defaultsFor` — the defaults of a language.
* `Settings.override`    — one mapping over another; the custom settings of both are
                           merged as well.
* `Settings.gather`      — a mapping as settings. What names no setting is custom.
* `Settings.combine`     — all of it.
-/

namespace Lexicon.Settings

/-- The languages that have defaults of their own. -/
def knownLanguages : List String := ["rust"]

/-- The defaults of a language. -/
def defaultsFor (language : String) : Fields :=
  if knownLanguages.contains language then
    [("field_case", .text "original"), ("derives", defaultDerives), ("union_tag", .text "type"),
     ("add_comments", .bool true),
     (customName, .mapping
      [("int_type", .text "i64"), ("string_type", .text "String"), ("bool_type", .text "bool"),
       ("bytes_type", .text "Vec<u8>"), ("fallback_type", .text "String")])]
  else []

/-- Sets one entry. Custom settings that are a mapping are set one by one, and what
they are set over must be a mapping too. -/
def overrideEntry (base : Fields) (key : String) (value : Value) : Except Mismatch Fields :=
  match value with
  | .mapping changes =>
    if key == customName then
      match (base.lookup customName).getD (.mapping []) with
      | .mapping own => .ok (Fields.put customName (.mapping (Fields.merge own changes)) base)
      | _ => .error .notUsable
    else .ok (base.put key value)
  | value => .ok (base.put key value)

/-- Sets the entries of `changes`, one after the other. -/
def override (base changes : Fields) : Except Mismatch Fields :=
  changes.foldlM (fun fields (key, value) => overrideEntry fields key value) base

/-- Sets the entries of a value, which must be a mapping unless it is switched off. -/
def overrideWith (base : Fields) (changes : Value) : Except Mismatch Fields :=
  match changes with
  | .mapping entries => override base entries
  | value => if value.truthy then .error .notLookedUp else .ok base

/-- A mapping as settings: an entry that names no setting is a custom one, and wins
over one of the same name among the custom settings. -/
def gather (fields : Fields) : Except Mismatch Settings := do
  let own := fields.filter fun e => isName e.1
  let extra := fields.filter fun e => !isName e.1
  if extra.isEmpty then return ofEntries own
  let given := (own.lookup customName).getD .null
  let custom ← if given.truthy then entriesOf given else .ok []
  return ofEntries (Fields.put customName (.mapping (Fields.merge custom extra)) own)

/-- The settings for a language, with those of a file and those of the caller over its
defaults. -/
def combine (language : String) (file : Fields) (changes : Value) :
    Except Mismatch Settings := do
  gather (← overrideWith (← override (defaultsFor language) file) changes)

end Lexicon.Settings
