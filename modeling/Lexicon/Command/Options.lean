import Lexicon.Text.Blank
import Lexicon.Text.Digit
import Lexicon.Value.Display

/-!
# Lexicon — options of the command line

* `Switch`, `Parameter` — what options there are: those that stand alone, and those that
                          take a value.
* `OptionSpec`, `options` — each with its names.
* `Word`                — what a word of the command line is taken for.
* `classify`            — tells which. A long name may be cut short as long as only one
                          option begins like that.
* `ArgumentFault`       — what can be wrong with a command line, with `message`.
-/

namespace Lexicon.Command

-- ---------------------------------------------------------------------------
-- Options
-- ---------------------------------------------------------------------------

/-- An option that stands alone. -/
inductive Switch where
  | help
  | version
  | fromInput
  | prelude
  | noComments
  | expandRecords
  | skipNone
  | listLanguages
  | showSettings
  | verbose
  deriving DecidableEq, Repr, Inhabited

/-- An option that takes a value. -/
inductive Parameter where
  | language
  | output
  | settingsFile
  | fieldCase
  deriving DecidableEq, Repr, Inhabited

/-- What an option does. -/
inductive Action where
  | switch (s : Switch)
  | parameter (p : Parameter)
  deriving DecidableEq, Repr, Inhabited

/-- An option and its names. -/
structure OptionSpec where
  names : List String
  action : Action
  deriving DecidableEq, Repr, Inhabited

/-- The options of the program. -/
def options : List OptionSpec :=
  [⟨["-h", "--help"], .switch .help⟩,
   ⟨["--version"], .switch .version⟩,
   ⟨["--stdin"], .switch .fromInput⟩,
   ⟨["--language", "-l"], .parameter .language⟩,
   ⟨["--output", "-o"], .parameter .output⟩,
   ⟨["--config", "--options-override"], .parameter .settingsFile⟩,
   ⟨["--prelude"], .switch .prelude⟩,
   ⟨["--no-comments"], .switch .noComments⟩,
   ⟨["--field-case"], .parameter .fieldCase⟩,
   ⟨["--expand-records"], .switch .expandRecords⟩,
   ⟨["--skip-none"], .switch .skipNone⟩,
   ⟨["--list-languages"], .switch .listLanguages⟩,
   ⟨["--show-config"], .switch .showSettings⟩,
   ⟨["--verbose", "-v"], .switch .verbose⟩]

/-- The names of all options, each with its option. -/
def named : List (String × OptionSpec) :=
  options.flatMap fun spec => spec.names.map fun name => (name, spec)

/-- The option of a name. -/
def optionNamed? (name : List Char) : Option OptionSpec := named.lookup (String.ofList name)

/-- The values that a parameter may have, if not all. -/
def choices? : Parameter → Option (List String)
  | .fieldCase => some ["camel", "original", "pascal", "snake"]
  | _ => none

-- ---------------------------------------------------------------------------
-- Faults
-- ---------------------------------------------------------------------------

/-- What can be wrong with a command line. -/
inductive ArgumentFault where
  | ambiguous (word : String) (names : List String)
  | ignoredValue (spec : OptionSpec) (value : String)
  | missingValue (spec : OptionSpec)
  | badChoice (spec : OptionSpec) (value : String) (choices : List String)
  | unrecognized (words : List String)
  deriving DecidableEq, Repr, Inhabited

/-- The beginning of the wording of a fault of one option. -/
def OptionSpec.opening (spec : OptionSpec) : String :=
  "argument " ++ "/".intercalate spec.names ++ ": "

/-- The wording of a fault. -/
def ArgumentFault.message : ArgumentFault → String
  | ambiguous word names =>
    "ambiguous option: " ++ word ++ " could match " ++ ", ".intercalate names
  | ignoredValue spec value => spec.opening ++ "ignored explicit argument " ++ quote value
  | missingValue spec => spec.opening ++ "expected one argument"
  | badChoice spec value choices =>
    spec.opening ++ "invalid choice: " ++ quote value ++ " (choose from " ++
      ", ".intercalate (choices.map quote) ++ ")"
  | unrecognized words => "unrecognized arguments: " ++ " ".intercalate words

-- ---------------------------------------------------------------------------
-- Words
-- ---------------------------------------------------------------------------

/-- A value written in one word with an option: behind an equals sign, or directly. -/
structure Attached where
  behindSign : Bool
  text : List Char
  deriving DecidableEq, Repr, Inhabited

/-- What a word of the command line is taken for. -/
inductive Word where
  | operand (text : String)
  | dashes
  | option (spec : OptionSpec) (name : List Char) (attached : Option Attached)
  | unknown (text : String)
  deriving DecidableEq, Repr, Inhabited

/-- Splits a word at its first equals sign. -/
def splitSign (word : List Char) : List Char × Option Attached :=
  match word.dropWhile (· != '=') with
  | _ :: value => (word.takeWhile (· != '='), some ⟨true, value⟩)
  | [] => (word, none)

/-- The options that a word with two dashes may stand for: all those that have a name which
begins like it. -/
def longCandidates (word : List Char) : List (String × Word) :=
  let (start, attached) := splitSign word
  named.filterMap fun (name, spec) =>
    if start.isPrefixOf name.toList then some (name, .option spec name.toList attached) else none

/-- The options that a word with one dash may stand for: the one of its first letter, what
follows being attached to it. -/
def shortCandidates (word : List Char) : List (String × Word) :=
  named.filterMap fun (name, spec) =>
    if name.toList == word.take 2 then
      some (name, .option spec name.toList (some ⟨false, word.drop 2⟩))
    else if word.isPrefixOf name.toList then some (name, .option spec name.toList none)
    else none

/-- What a word with a dash at its start is taken for when it is not the name of an
option. -/
def classifyDashed (word : List Char) : Except ArgumentFault Word :=
  let (start, attached) := splitSign word
  match attached, optionNamed? start with
  | some attached, some spec => .ok (.option spec start (some attached))
  | _, _ =>
    let candidates :=
      if word.take 2 == ['-', '-'] then longCandidates word else shortCandidates word
    match candidates with
    | [(_, found)] => .ok found
    | [] =>
      if Text.isSignedDecimal word || word.contains ' ' then .ok (.operand (String.ofList word))
      else .ok (.unknown (String.ofList word))
    | several => .error (.ambiguous (String.ofList word) (several.map Prod.fst))

/-- What a word is taken for. -/
def classify (text : String) : Except ArgumentFault Word :=
  let word := text.toList
  if word.head? != some '-' then .ok (.operand text)
  else
    match optionNamed? word with
    | some spec => .ok (.option spec word none)
    | none => if word.length == 1 then .ok (.operand text) else classifyDashed word

/-- What the words of a command line are taken for. Behind two dashes there are operands
only. -/
def classifyAll : List String → Except ArgumentFault (List Word)
  | [] => .ok []
  | text :: rest =>
    if text == "--" then .ok (.dashes :: rest.map .operand)
    else do
      let word ← classify text
      let words ← classifyAll rest
      return word :: words

end Lexicon.Command
