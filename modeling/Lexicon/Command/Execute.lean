import Lexicon.Command.Arguments
import Lexicon.Command.Console
import Lexicon.Registry.Generate
import Lexicon.Settings.Check
import Lexicon.Source.Load

/-!
# Lexicon — the command

What the program does for a command line.

* `Outcome`  — how a command ends: with an exit status, or with a crash.
* `settings` — the settings that a request asks for.
* `loadAll`  — loads the sources, one after the other.
* `report`   — prints what became of the documents.
* `execute`  — does what a request asks for.
* `run`      — the same, with what is left behind for the user.

Generated text goes to the first stream or to a file, everything else to the second. A
source that fails is reported, and does not keep the others from being generated.
-/

namespace Lexicon.Command

open Lexicon.Source

-- ---------------------------------------------------------------------------
-- Ends
-- ---------------------------------------------------------------------------

/-- Why a command ends without an exit status. -/
inductive Crash where
  | markup (fault : Markup.Fault)
  | settings (fault : SettingsFault)
  | mismatch (fault : Mismatch)
  | creation (fault : CreationFault)
  | generation (fault : GenerationFault)
  | badSource
  | badPath
  deriving Inhabited

/-- Why work stops: an error of the command, a generator that cannot be made, or a crash. -/
inductive Stop where
  | error (message : String)
  | rejected (message : String)
  | crash (c : Crash)
  deriving Inhabited

/-- Work at the console, which stays as it is where the work stops. -/
abbrev Work (α : Type) := Except (Stop × Console) α

/-- Work that stops with a crash if there is a fault. -/
def orCrash {ε α : Type} (console : Console) (crash : ε → Crash) : Except ε α → Work α
  | .ok result => .ok result
  | .error fault => .error (.crash (crash fault), console)

/-- Prints a message with markup. -/
def print (console : Console) (markup : String) : Work Console :=
  orCrash console .markup (console.print markup)

/-- Prints a table. -/
def printTable (console : Console) (title : String) (columns : List String)
    (rows : List (List String)) : Work Console :=
  orCrash console .markup (console.table title columns rows)

/-- Prints messages, one after the other. -/
def printAll (console : Console) (messages : List String) : Work Console :=
  messages.foldlM print console

-- ---------------------------------------------------------------------------
-- Information
-- ---------------------------------------------------------------------------

/-- What stands for no aliases. -/
def noAliases : String := "[dim]none[/dim]"

/-- Prints what is known of the registered languages. -/
def listLanguages (registry : Registry) (console : Console) : Work Console :=
  let row : String × GeneratorKind × List String → List String := fun (language, kind, aliases) =>
    [language, kind.extension, kind.name,
     if aliases.isEmpty then noAliases else ", ".intercalate aliases]
  match registry.describeAll with
  | [] => .ok (console.emit "⚠️ No code generators available\n")
  | known =>
    printTable console "📋 Supported Languages"
      ["Language", "Extension", "Generator Class", "Aliases"] (known.map row)

/-- Prints the settings. -/
def showSettings (language : String) (settings : Settings) (console : Console) :
    Work Console := do
  let fields ← orCrash console .mismatch settings.flat
  printTable console ("⚙️  " ++ language ++ " configuration") ["Setting", "Value"]
    (fields.map fun (name, value) => [name, value.display])

/-- Prints that a language is not supported, and which ones are. -/
def refuseLanguage (registry : Registry) (language : String) (console : Console) :
    Work Console :=
  printAll console
    ["[red]✗ Unsupported language '" ++ language ++ "'[/red]",
     "[dim]Supported languages: " ++ ", ".intercalate registry.languages ++ "[/dim]"]

-- ---------------------------------------------------------------------------
-- Settings
-- ---------------------------------------------------------------------------

/-- An entry that is there if its value is. -/
def entryIf (name : String) (set : Bool) (value : Value) : Fields :=
  if set then [(name, value)] else []

/-- A text that is neither absent nor empty. -/
def givenText (text : Option String) : Option String := text.filter (· != "")

/-- What a request sets. -/
def changes (request : Request) : Fields :=
  ((givenText request.output).map fun path => ("output_file", Value.text path)).toList ++
    entryIf "emit_prelude" request.prelude (.bool true) ++
    entryIf "add_comments" request.noComments (.bool false) ++
    ((givenText request.fieldCase).map fun style => ("field_case", Value.text style)).toList ++
    entryIf "expand_records" request.expandRecords (.bool true) ++
    entryIf "skip_serializing_none" request.skipNone (.bool true)

/-- The settings that a request asks for; what is doubtful about them is printed. -/
def settings (files : Tree) (language : String) (request : Request) (console : Console) :
    Work (Settings × Console) := do
  let file := request.settingsFile.bind Settings.fileNamed
  match Settings.load files language file (.mapping (changes request)) with
  | .error fault =>
    match fault.message? with
    | some message => .error (.error ("Configuration error: " ++ message), console)
    | none => .error (.crash (.settings fault), console)
  | .ok settings =>
    let warnings ← orCrash console .mismatch settings.warnings
    let console ← printAll console (warnings.map fun w => "[yellow]⚠️  " ++ w.message ++ "[/yellow]")
    return (settings, console)

-- ---------------------------------------------------------------------------
-- Sources
-- ---------------------------------------------------------------------------

/-- The name of the logger. -/
def loggerName : String := "lexgen.codegen.cli_integration"

/-- The documents that could be loaded, each with its source, and how many could not. -/
structure Loads where
  payloads : List (String × Value) := []
  failures : Nat := 0
  deriving Inhabited

/-- Loads sources, one after the other. -/
def loadAll (loads : Loads) (world : World) (console : Console) :
    List String → Work (Loads × Console)
  | [] => .ok (loads, console)
  | source :: rest =>
    let ((loaded, records), world) := fromSource world source
    let console := console.log (⟨.info, loggerName, "Reading " ++ source⟩ :: records)
    match loaded with
    | .ok payload => loadAll { loads with payloads := loads.payloads ++ [payload] } world console rest
    | .error .badSource => .error (.crash .badSource, console)
    | .error fault => do
      let console ← print console
        ("[red]✗ Failed to load " ++ source ++ ":[/red] " ++ Markup.escape fault.message)
      loadAll { loads with failures := loads.failures + 1 } world console rest

-- ---------------------------------------------------------------------------
-- Results
-- ---------------------------------------------------------------------------

/-- The heads of what is known about a result. -/
def propertyHead : String → String
  | "language" => "Language"
  | "file_extension" => "File Extension"
  | "lexicon_id" => "Lexicon Id"
  | "definition_count" => "Definition Count"
  | "diagnostic_count" => "Diagnostic Count"
  | other => other

/-- Prints the diagnostics of a document, if there are any. -/
def printDiagnostics (source : String) (diagnostics : List Diagnostic) (console : Console) :
    Work Console :=
  if diagnostics.isEmpty then .ok console
  else
    printAll console
      (("[yellow]⚠️  Diagnostics for " ++ source ++ ":[/yellow]") ::
        diagnostics.map fun d => "  [yellow]•[/yellow] " ++ Markup.escape d.text)

/-- Prints what is known about a result. -/
def printProperties (source : String) (result : Generated) (console : Console) : Work Console :=
  printTable console ("📊 " ++ source) ["Property", "Value"]
    (result.metadata.map fun (name, value) => [propertyHead name, value.display])

/-- Prints what became of the documents; yields the generated texts and the number of
documents that failed. -/
def report (detailed : Bool) (console : Console) :
    List (String × Answer) → Work (List String × Nat × Console)
  | [] => .ok ([], 0, console)
  | (source, .undecodable message) :: rest => do
    let console ← print console
      ("[red]✗ Code generation failed for " ++ source ++ ":[/red] " ++ Markup.escape message)
    let (texts, failures, console) ← report detailed console rest
    return (texts, failures + 1, console)
  | (source, .generated result) :: rest => do
    let console ← printDiagnostics source result.diagnostics console
    let console ← if detailed then printProperties source result console else .ok console
    let (texts, failures, console) ← report detailed console rest
    return (result.code :: texts, failures, console)

/-- Writes generated text to a file, and says so. -/
def saveTo (path code language : String) (console : Console) : Work Console :=
  let location := Location.read path
  match console.save location code with
  | .error fault =>
    .error (.error ("Failed to write to " ++ location.text ++ ": " ++ fault.message), console)
  | .ok console =>
    print console ("[green]✓[/green] Generated " ++ language ++ " code saved to [cyan]" ++
      location.text ++ "[/cyan]")

/-- Writes generated text, if there is any, to the file that is set, or to the first
stream. -/
def deliver (code language : String) (target : Value) (console : Console) : Work Console :=
  if code == "" then .ok console
  else if !target.truthy then .ok (console.emit code)
  else
    match target with
    | .text path => saveTo path code language console
    | _ => .error (.crash .badPath, console)

-- ---------------------------------------------------------------------------
-- Commands
-- ---------------------------------------------------------------------------

/-- Generates the documents of some sources. -/
def generateAll (registry : Registry) (language : String) (settings : Settings)
    (detailed : Bool) (sources : List String) (world : World) (console : Console) :
    Work (Nat × Console) := do
  let (loads, console) ← loadAll {} world console sources
  match registry.create console.files language (.given settings) with
  | .error fault =>
    match fault.message? with
    | some message => .error (.rejected message, console)
    | none => .error (.crash (.creation fault), console)
  | .ok (kind, generator) =>
    let payloads := loads.payloads.map fun (source, value) => (source, .value value)
    let (answers, _, records) := generator.runAll payloads
    let console := console.log records
    let answers ← orCrash console .generation answers
    let (texts, failures, console) ← report detailed console answers
    let console ← deliver ("\n".intercalate texts) kind.language settings.outputFile console
    return (if loads.failures + failures = 0 then 0 else 1, console)

/-- Does what a request asks for in a language. -/
def serve (registry : Registry) (language : String) (request : Request) (world : World)
    (console : Console) : Work (Nat × Console) := do
  let (settings, console) ← settings world.files language request console
  if request.showSettings then
    let console ← showSettings language settings console
    return (0, console)
  let sources := request.sources ++ if request.fromInput then [streamName] else []
  if sources.isEmpty then .error (.error "Input source required (SOURCE or --stdin)", console)
  else generateAll registry language settings (0 < request.verbosity) sources world console

/-- Does what a request asks for. -/
def execute (registry : Registry) (request : Request) (world : World) : Work (Nat × Console) := do
  let console : Console := { files := world.files }
  if request.listLanguages then
    let console ← listLanguages registry console
    return (0, console)
  match registry.resolve request.language with
  | .error _ =>
    let console ← refuseLanguage registry request.language console
    return (1, console)
  | .ok language => serve registry language request world console

/-- How a command ends: with an exit status or a crash, and what it leaves behind. -/
structure Outcome where
  status : Except Crash Nat
  console : Console
  deriving Inhabited

/-- The outcome of a command that stops with a message. -/
def failWith (console : Console) (markup : String) : Outcome :=
  match console.print markup with
  | .ok console => { status := .ok 1, console }
  | .error fault => { status := .error (.markup fault), console }

/-- The outcome of finished or stopped work. -/
def Outcome.of : Work (Nat × Console) → Outcome
  | .ok (status, console) => { status := .ok status, console }
  | .error (.error message, console) => failWith console ("[red]✗ Error:[/red] " ++ message)
  | .error (.rejected message, console) => failWith console ("[red]✗[/red] " ++ message)
  | .error (.crash c, console) => { status := .error c, console }

/-- Does what a request asks for, and keeps of the log what its verbosity shows. -/
def run (registry : Registry) (request : Request) (world : World) : Outcome :=
  let outcome := Outcome.of (execute registry request world)
  let records := Log.shown (.ofVerbosity request.verbosity) outcome.console.records
  { outcome with console := { outcome.console with records } }

end Lexicon.Command
