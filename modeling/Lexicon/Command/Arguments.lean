import Lexicon.Command.Options

/-!
# Lexicon — reading the command line

* `Request`   — what the command line asks for.
* `expand`    — the options that one word holds: letters behind one dash may be joined.
* `readWords` — reads words one after the other.
* `read`      — reads a whole command line.
* `versionText`, `faultText` — what is printed when it ends early.
* `Early`     — why reading ends before: help or the version is asked for, or there is a
                fault.

The sources have to stand side by side: once an option has followed them, further operands
are not recognized.
-/

namespace Lexicon.Command

-- ---------------------------------------------------------------------------
-- Requests
-- ---------------------------------------------------------------------------

/-- What the command line asks for. -/
structure Request where
  sources : List String := []
  fromInput : Bool := false
  language : String := "rust"
  output : Option String := none
  settingsFile : Option String := none
  prelude : Bool := false
  noComments : Bool := false
  fieldCase : Option String := none
  expandRecords : Bool := false
  skipNone : Bool := false
  listLanguages : Bool := false
  showSettings : Bool := false
  verbosity : Nat := 0
  deriving DecidableEq, Repr, Inhabited

/-- Why reading ends before the end of the command line. -/
inductive Early where
  | help
  | version
  | fault (f : ArgumentFault)
  deriving DecidableEq, Repr, Inhabited

namespace Request

/-- Turns a switch on. -/
def turnOn (request : Request) : Switch → Except Early Request
  | .help => .error .help
  | .version => .error .version
  | .fromInput => .ok { request with fromInput := true }
  | .prelude => .ok { request with prelude := true }
  | .noComments => .ok { request with noComments := true }
  | .expandRecords => .ok { request with expandRecords := true }
  | .skipNone => .ok { request with skipNone := true }
  | .listLanguages => .ok { request with listLanguages := true }
  | .showSettings => .ok { request with showSettings := true }
  | .verbose => .ok { request with verbosity := request.verbosity + 1 }

/-- Sets a parameter. -/
def set (request : Request) (value : String) : Parameter → Request
  | .language => { request with language := value }
  | .output => { request with output := some value }
  | .settingsFile => { request with settingsFile := some value }
  | .fieldCase => { request with fieldCase := some value }

/-- Sets the parameter of an option, if the value is among those it may have. -/
def choose (request : Request) (spec : OptionSpec) (p : Parameter) (value : String) :
    Except Early Request :=
  match choices? p with
  | none => .ok (request.set value p)
  | some choices =>
    if choices.contains value then .ok (request.set value p)
    else .error (.fault (.badChoice spec value choices))

end Request

-- ---------------------------------------------------------------------------
-- Options in one word
-- ---------------------------------------------------------------------------

/-- How a word with options ends: with a switch, with a parameter and its value, with a
parameter whose value is the next word, or with letters that stand for nothing. -/
inductive Ending where
  | complete
  | value (spec : OptionSpec) (p : Parameter) (text : String)
  | wanting (spec : OptionSpec) (p : Parameter)
  | stray (text : String)
  deriving DecidableEq, Repr, Inhabited

/-- The options that one word holds. -/
structure Expansion where
  switches : List Switch := []
  ending : Ending := .complete
  deriving DecidableEq, Repr, Inhabited

/-- Puts a switch before the others. -/
def Expansion.after (s : Switch) (e : Expansion) : Expansion :=
  { e with switches := s :: e.switches }

/-- An option without anything attached. -/
def expandBare (spec : OptionSpec) : Expansion :=
  match spec.action with
  | .switch s => { switches := [s] }
  | .parameter p => { ending := .wanting spec p }

/-- An option with a text attached to its name. A switch of one letter takes a text that is
not behind a sign for further letters. -/
def expandText (spec : OptionSpec) (name : List Char) (behindSign : Bool) :
    List Char → Except ArgumentFault Expansion
  | [] =>
    match spec.action with
    | .parameter p => .ok { ending := .value spec p "" }
    | .switch _ => .error (.ignoredValue spec "")
  | c :: rest =>
    match spec.action with
    | .parameter p => .ok { ending := .value spec p (String.ofList (c :: rest)) }
    | .switch s =>
      if "--".toList.isPrefixOf name || behindSign || c == '-' then
        .error (.ignoredValue spec (String.ofList (c :: rest)))
      else
        match optionNamed? ['-', c] with
        | none => .ok { switches := [s], ending := .stray (String.ofList ('-' :: c :: rest)) }
        | some next =>
          (Expansion.after s ·) <$>
            match rest with
            | [] => .ok (expandBare next)
            | '=' :: more => expandText next ['-', c] true more
            | more => expandText next ['-', c] false more

/-- The options that one word holds. -/
def expand (spec : OptionSpec) (name : List Char) (attached : Option Attached) :
    Except ArgumentFault Expansion :=
  match attached with
  | none => .ok (expandBare spec)
  | some a => expandText spec name a.behindSign a.text

-- ---------------------------------------------------------------------------
-- The command line
-- ---------------------------------------------------------------------------

/-- Where the sources stand: still to come, being read, or all read. -/
inductive Phase where
  | before
  | within
  | behind
  deriving DecidableEq, Repr, Inhabited

/-- What has been read of a command line. -/
structure Reading where
  request : Request := {}
  phase : Phase := .before
  extras : List String := []
  deriving DecidableEq, Repr, Inhabited

namespace Reading

/-- Reads an operand. -/
def operand (r : Reading) (text : String) : Reading :=
  match r.phase with
  | .behind => { r with extras := r.extras ++ [text] }
  | _ => { r with phase := .within
                  request := { r.request with sources := r.request.sources ++ [text] } }

/-- Reads two dashes, which are left out before and among the sources. -/
def dashes (r : Reading) : Reading :=
  match r.phase with
  | .behind => { r with extras := r.extras ++ ["--"] }
  | _ => r

/-- No more sources follow those that were read. -/
def close (r : Reading) : Reading :=
  match r.phase with
  | .within => { r with phase := .behind }
  | _ => r

/-- Reads something that is not recognized. -/
def extra (r : Reading) (text : String) : Reading := { r with extras := r.extras ++ [text] }

/-- Turns switches on, one after the other. -/
def turnOn (r : Reading) (switches : List Switch) : Except Early Reading := do
  let request ← switches.foldlM Request.turnOn r.request
  return { r with request }

/-- Sets a parameter. -/
def choose (r : Reading) (spec : OptionSpec) (p : Parameter) (value : String) :
    Except Early Reading := do
  let request ← r.request.choose spec p value
  return { r with request }

end Reading

/-- Reads words one after the other. -/
def readWords : List Word → Reading → Except Early Reading
  | [], r => .ok r
  | .operand text :: rest, r => readWords rest (r.operand text)
  | .dashes :: rest, r => readWords rest r.dashes
  | .unknown text :: rest, r => readWords rest (r.close.extra text)
  | .option spec name attached :: rest, r =>
    match expand spec name attached with
    | .error fault => .error (.fault fault)
    | .ok ⟨switches, .complete⟩ =>
      match r.close.turnOn switches with
      | .error early => .error early
      | .ok r => readWords rest r
    | .ok ⟨switches, .stray text⟩ =>
      match (r.close.extra text).turnOn switches with
      | .error early => .error early
      | .ok r => readWords rest r
    | .ok ⟨switches, .value spec p text⟩ =>
      match r.close.turnOn switches >>= (·.choose spec p text) with
      | .error early => .error early
      | .ok r => readWords rest r
    | .ok ⟨switches, .wanting spec p⟩ =>
      match rest with
      | .operand text :: rest =>
        match r.close.turnOn switches >>= (·.choose spec p text) with
        | .error early => .error early
        | .ok r => readWords rest r
      | _ => .error (.fault (.missingValue spec))

/-- Reads a command line. -/
def read (arguments : List String) : Except Early Request :=
  match classifyAll arguments with
  | .error fault => .error (.fault fault)
  | .ok words =>
    match readWords words {} with
    | .error early => .error early
    | .ok r =>
      if r.extras.isEmpty then .ok r.request else .error (.fault (.unrecognized r.extras))

-- ---------------------------------------------------------------------------
-- Texts
-- ---------------------------------------------------------------------------

/-- The name under which the program speaks of itself. -/
def programName : String := "lexgen"

/-- What is printed when the version is asked for. -/
def versionText : String := programName ++ " 0.1.0\n"

/-- What is printed when there is a fault. -/
def faultText (fault : ArgumentFault) : String := programName ++ ": error: " ++ fault.message

end Lexicon.Command
