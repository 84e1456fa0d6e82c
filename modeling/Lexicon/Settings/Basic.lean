import Lexicon.Value.Display

/-!
# Lexicon — settings

What can be set for a generator. A setting may hold any value; what is wrong with it
is found out where it is used.

* `Settings`           — the settings, with their defaults.
* `Settings.entries`, `ofEntries?` — as a mapping, and back.
* `Settings.flat`      — as a mapping in the shape of a settings file, in which the
                         custom settings stand beside the others.
* `Settings.indent`    — one level of indentation.
* `Mismatch`           — a value is not of the sort that its use needs.
* `entriesOf`          — reads a value as entries of a mapping.
-/

namespace Lexicon

-- ---------------------------------------------------------------------------
-- Values in use
-- ---------------------------------------------------------------------------

/-- A value is not of the sort that its use needs. -/
inductive Mismatch where
  /-- a mapping was needed to look something up -/
  | notLookedUp
  /-- entries, a count or a key of another sort were needed -/
  | notUsable
  /-- an entry does not consist of two parts -/
  | notAPair
  deriving DecidableEq, Repr, Inhabited

/-- Reads the key of an entry. Only texts can be looked up later, so a key that is
another scalar is left out. -/
def keyOf : Value → Except Mismatch (Option String)
  | .text s => .ok (some s)
  | .list _ => .error .notUsable
  | .mapping _ => .error .notUsable
  | _ => .ok none

/-- Reads one entry: a list of two, a mapping of two keys, or a text of two characters. -/
def entryOf : Value → Except Mismatch (Option (String × Value))
  | .list [key, value] => (Option.map (·, value)) <$> keyOf key
  | .mapping [(key, _), (value, _)] => .ok (some (key, .text value))
  | .text s =>
    match s.toList with
    | [key, value] => .ok (some (key.toString, .text value.toString))
    | _ => .error .notAPair
  | .list _ => .error .notAPair
  | .mapping _ => .error .notAPair
  | _ => .error .notUsable

/-- Reads a value as the entries of a mapping: those of a mapping, or a list of pairs. -/
def entriesOf : Value → Except Mismatch Fields
  | .mapping entries => .ok entries
  | .list items => do
    let entries ← items.mapM entryOf
    return Fields.ofList (entries.filterMap id)
  | .text s => if s == "" then .ok [] else .error .notAPair
  | _ => .error .notUsable

-- ---------------------------------------------------------------------------
-- Settings
-- ---------------------------------------------------------------------------

/-- What is derived for every declaration unless set otherwise. -/
def defaultDerives : Value :=
  .list [.text "Debug", .text "Clone", .text "Serialize", .text "Deserialize"]

/-- The settings of a generator. -/
structure Settings where
  outputFile : Value := .null
  emitPrelude : Value := .bool false
  indentSize : Value := .int 4
  useTabs : Value := .bool false
  fieldCase : Value := .text "original"
  derives : Value := defaultDerives
  unionTag : Value := .text "type"
  skipSerializingNone : Value := .bool false
  expandRecords : Value := .bool false
  addComments : Value := .bool true
  custom : Value := .mapping []
  deriving Inhabited

namespace Settings

/-- The names of the settings that are not custom. -/
def names : List String :=
  ["output_file", "emit_prelude", "indent_size", "use_tabs", "field_case", "derives",
   "union_tag", "skip_serializing_none", "expand_records", "add_comments"]

/-- The name of the mapping of custom settings. -/
def customName : String := "custom"

/-- Is it the name of a setting? -/
def isName (name : String) : Bool := names.contains name || name == customName

/-- The settings that are not custom. -/
def plain (s : Settings) : Fields :=
  [("output_file", s.outputFile), ("emit_prelude", s.emitPrelude),
   ("indent_size", s.indentSize), ("use_tabs", s.useTabs), ("field_case", s.fieldCase),
   ("derives", s.derives), ("union_tag", s.unionTag),
   ("skip_serializing_none", s.skipSerializingNone), ("expand_records", s.expandRecords),
   ("add_comments", s.addComments)]

/-- All settings. -/
def entries (s : Settings) : Fields := s.plain ++ [(customName, s.custom)]

/-- The settings that a mapping gives, defaults for the others. -/
def ofEntries (fields : Fields) : Settings :=
  let d : Settings := {}
  let value (name : String) (default : Value) := (fields.lookup name).getD default
  { outputFile := value "output_file" d.outputFile
    emitPrelude := value "emit_prelude" d.emitPrelude
    indentSize := value "indent_size" d.indentSize
    useTabs := value "use_tabs" d.useTabs
    fieldCase := value "field_case" d.fieldCase
    derives := value "derives" d.derives
    unionTag := value "union_tag" d.unionTag
    skipSerializingNone := value "skip_serializing_none" d.skipSerializingNone
    expandRecords := value "expand_records" d.expandRecords
    addComments := value "add_comments" d.addComments
    custom := value customName d.custom }

/-- The settings that a mapping gives, if it names nothing but settings. -/
def ofEntries? (fields : Fields) : Option Settings :=
  if fields.all fun e => isName e.1 then some (ofEntries fields) else none

/-- The settings in the shape of a settings file: the custom ones stand beside the
others, and take the place of a setting of the same name. -/
def flat (s : Settings) : Except Mismatch Fields := do
  return s.plain.merge (← entriesOf s.custom)

/-- A text repeated; a negative count counts as zero. -/
def repeated (text : String) (count : Int) : String :=
  String.join (List.replicate count.toNat text)

/-- One level of indentation: a tab, or as many blanks as are set. -/
def indent (s : Settings) : Except Mismatch String :=
  if s.useTabs.truthy then .ok "\t"
  else
    match s.indentSize.asInt? with
    | some count => .ok (repeated " " count)
    | none => .error .notUsable

/-- A custom setting; `none` if it is not set. -/
def custom? (s : Settings) (name : String) : Except Mismatch (Option Value) :=
  match s.custom with
  | .mapping entries => .ok (entries.lookup name)
  | _ => .error .notLookedUp

end Settings

end Lexicon
