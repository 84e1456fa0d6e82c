import Lexicon.Settings.Check
import Lexicon.Target.Outline
import Lexicon.Template.Store
import Lexicon.Validation

/-!
# Lexicon — the generator

A generator writes the declarations of documents. It is built from settings, and keeps
what it reported, which types it declared and which names it handed out.

* `Generator.build`      — a generator for some settings.
* `Generator.declare`    — writes one declaration.
* `Generator.perform`    — carries out the steps of a plan.
* `Generator.definition` — the blocks for one definition.
* `Generator.generate`   — the text for a document.

Whatever fails leaves the generator as it was at that moment.
-/

namespace Lexicon

open Schema Target

-- ---------------------------------------------------------------------------
-- Faults
-- ---------------------------------------------------------------------------

/-- Why a generator cannot be built. -/
inductive BuildFault where
  | badStyle (value : Value)
  | mismatch (m : Mismatch)
  deriving Inhabited

/-- The wording of a fault, if it is one that is explained. -/
def BuildFault.message? : BuildFault → Option String
  | badStyle value => some ("Invalid field_case: " ++ value.display)
  | mismatch _ => none

/-- Why a text cannot be generated. -/
inductive GenerationFault where
  | decode (e : DecodeError)
  | template (name : String) (fault : Template.Fault)
  | mismatch (m : Mismatch)
  deriving Inhabited

/-- The message of a template that cannot be filled. -/
def templateMessage (name : String) (fault : Template.Fault) : String :=
  "Failed to render template " ++ name ++ ": " ++ fault.message

-- ---------------------------------------------------------------------------
-- State
-- ---------------------------------------------------------------------------

/-- A generator. `declared` holds the types declared for the document at hand, and
`definitions` the names of its definitions. -/
structure Generator where
  settings : Settings
  style : Naming.Style
  types : TypeSettings
  scope : Naming.Scope := { policy := Target.policy }
  store : Template.Store := { hasFiles := true, literals := true }
  diagnostics : List Diagnostic := []
  index : Option Naming.ReferenceIndex := none
  declared : List String := []
  definitions : List String := []
  deriving Inhabited

namespace Generator

/-- The name of the language of generated texts. -/
def language : String := "rust"

/-- The extension of generated files. -/
def fileExtension : String := ".rs"

/-- The configured types among the custom settings. -/
def typeSettings (s : Settings) : Except Mismatch TypeSettings := do
  let custom (name : String) (default : Value) := (Option.getD · default) <$> s.custom? name
  let overrides ← custom "type_overrides" (.mapping [])
  return { int := ← custom "int_type" (.text "i64")
           string := ← custom "string_type" (.text "String")
           bool := ← custom "bool_type" (.text "bool")
           bytes := ← custom "bytes_type" (.text "Vec<u8>")
           cidLink := ← custom "cid_link_type" .null
           fallback := ← custom "fallback_type" (.text "String")
           overrides := ← entriesOf overrides }

/-- The generator for some settings. -/
def build (s : Settings) : Except BuildFault Generator :=
  match s.style? with
  | none => .error (.badStyle s.fieldCase)
  | some style =>
    match typeSettings s with
    | .error m => .error (.mismatch m)
    | .ok types => .ok { settings := s, style, types }

/-- Clears what was reported, and sets the index that references are judged by. -/
def reset (g : Generator) (index : Option Naming.ReferenceIndex) : Generator :=
  { g with diagnostics := [], index }

/-- Reports a finding. -/
def report (g : Generator) (d : Diagnostic) : Generator :=
  { g with diagnostics := g.diagnostics ++ [d] }

/-- Reports what is wrong with a document. -/
def check (g : Generator) (document : Document) : Generator :=
  { g with diagnostics := g.diagnostics ++ documentDiagnostics g.index document }

-- ---------------------------------------------------------------------------
-- Contexts
-- ---------------------------------------------------------------------------

/-- A description as a value; none if comments are switched off. -/
def comment (g : Generator) : Option String → Value
  | some text => if g.settings.addComments.truthy then .text text else .null
  | none => .null

/-- An attribute line that sets a key to a text. -/
def serdeAttribute (key value : String) : String :=
  "#[serde(" ++ key ++ " = " ++ literal value ++ ")]"

/-- The attribute that keeps a wire name, if the identifier differs from it. -/
def renameAttributes (identifier : Naming.Identifier) : List String :=
  if identifier.isRenamed then [serdeAttribute "rename" identifier.wireName] else []

/-- The attribute of a field that is left out when it is empty. -/
def skipAttributes (g : Generator) (field : FieldOutline) : List String :=
  if field.isOptional && g.settings.skipSerializingNone.truthy then
    [serdeAttribute "skip_serializing_if" "Option::is_none"]
  else []

/-- Texts as a value. -/
def textList (texts : List String) : Value := .list (texts.map .text)

/-- A field as its template sees it. -/
def fieldValue (g : Generator) (field : FieldOutline) (identifier : Naming.Identifier) : Value :=
  .mapping
    [("name", .text identifier.declared), ("type", field.type.name),
     ("original_name", .text field.wireName), ("optional", .bool field.isOptional),
     ("description", g.comment field.description),
     ("attributes", textList (renameAttributes identifier ++ g.skipAttributes field))]

/-- A variant as its template sees it. -/
def variantValue (identifier : Naming.Identifier) : Value :=
  .mapping
    [("name", .text identifier.declared), ("attributes", textList (renameAttributes identifier))]

-- ---------------------------------------------------------------------------
-- Declarations
-- ---------------------------------------------------------------------------

/-- Fills a template. -/
def render (g : Generator) (name : String) (context : Fields) :
    Except GenerationFault String × Generator :=
  match g.store.render name context with
  | (.ok text, store) => (.ok text, { g with store })
  | (.error fault, store) => (.error (.template name fault), { g with store })

/-- Writes one declaration. The names of its fields or variants are handed out in a
scope of their own. -/
def declare (g : Generator) (outline : Outline) : Except GenerationFault String × Generator :=
  let g := { g with declared := outline.declared?.toList ++ g.declared }
  match outline with
  | .struct name description schema =>
    let fields := fieldOutlines g.types name schema
    let (identifiers, scope) := g.scope.clear.identifyAll g.style (fields.map FieldOutline.wireName)
    let g := { g with scope }
    match g.settings.indent with
    | .error m => (.error (.mismatch m), g)
    | .ok indent =>
      g.render Template.structName
        [("struct_name", .text name), ("description", g.comment description),
         ("derives", g.settings.derives),
         ("fields", .list (List.zipWith g.fieldValue fields identifiers)),
         ("indent", .text indent)]
  | .enum name description variants =>
    let (identifiers, scope) := g.scope.clear.identifyAll .original variants
    let g := { g with scope }
    match g.settings.indent with
    | .error m => (.error (.mismatch m), g)
    | .ok indent =>
      g.render Template.enumName
        [("enum_name", .text name), ("description", g.comment description),
         ("derives", g.settings.derives), ("tag", g.settings.unionTag),
         ("variants", .list (identifiers.map variantValue)), ("indent", .text indent)]
  | .placeholder name kind =>
    g.render Template.placeholderName [("name", .text name), ("kind", .text kind.name)]

/-- Carries out the steps of a plan, up to the first that fails. -/
def perform (g : Generator) : List Step → Except GenerationFault (List String) × Generator
  | [] => (.ok [], g)
  | .report d :: rest => (g.report d).perform rest
  | .declare outline :: rest =>
    match g.declare outline with
    | (.error fault, g) => (.error fault, g)
    | (.ok block, g) =>
      match g.perform rest with
      | (.error fault, g) => (.error fault, g)
      | (.ok blocks, g) => (.ok (block :: blocks), g)

/-- What a plan of this generator depends on. -/
def planSettings (g : Generator) : PlanSettings :=
  { types := g.types, expandsRecords := g.settings.expandRecords.truthy,
    definitions := g.definitions }

/-- The blocks for one definition, its own first. -/
def definition (g : Generator) (name : String) (node : Node) :
    Except GenerationFault (List String) × Generator :=
  g.perform (planDefinition g.planSettings g.declared name node)

-- ---------------------------------------------------------------------------
-- Documents
-- ---------------------------------------------------------------------------

/-- What a generated file uses. -/
def uses : List String := ["serde::\x7bDeserialize, Serialize\x7d"]

/-- The head of a generated file, if it is switched on. -/
def prelude (g : Generator) (document : Document) :
    Except GenerationFault (List String) × Generator :=
  if g.settings.emitPrelude.truthy then
    match g.render Template.preludeName
        [("lexicon_id", .text document.id), ("uses", textList uses)] with
    | (.ok block, g) => (.ok [block], g)
    | (.error fault, g) => (.error fault, g)
  else (.ok [], g)

/-- The text for a document: a block for each declaration, with a line feed between
them. -/
def generate (g : Generator) (document : Document) : Except GenerationFault String × Generator :=
  let g := { g with declared := [], definitions := document.names }
  match g.prelude document with
  | (.error fault, g) => (.error fault, g)
  | (.ok head, g) =>
    match g.perform (planDocument g.planSettings g.declared document.definitions) with
    | (.error fault, g) => (.error fault, g)
    | (.ok blocks, g) => (.ok ("\n".intercalate (head ++ blocks)), g)

end Generator

end Lexicon
