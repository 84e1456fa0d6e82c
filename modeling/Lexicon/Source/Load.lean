import Lexicon.Encoding.Unicode
import Lexicon.Json.Reader
import Lexicon.Log
import Lexicon.Source.Tree
import Lexicon.Source.Url

/-!
# Lexicon — loading documents

A document is read from a file, from an address on the web, or from the input stream.

* `Response`   — what a request to an address comes to.
* `World`      — the files, the input stream, and the response to requests.
* `LoadFault`  — why nothing could be loaded, with `message`.
* `fromFile`, `fromStream`, `fromUrl` — the three ways; `fromEither` and `fromSource`
                 choose among them.

What is said of the work is returned beside the document. The input stream can be read
once only.
-/

namespace Lexicon.Source

-- ---------------------------------------------------------------------------
-- Surroundings
-- ---------------------------------------------------------------------------

/-- What a request to an address comes to. -/
inductive Response where
  | timeout
  | noConnection (text : String)
  | failure (text : String)
  | answer (status : Int) (contentType text : String)
  deriving DecidableEq, Repr, Inhabited

/-- What documents are loaded from. -/
structure World where
  files : Tree := {}
  input : List UInt8 := []
  response : Response := .noConnection ""
  deriving DecidableEq, Repr, Inhabited

/-- Why nothing could be loaded. -/
inductive LoadFault where
  | notFound (path : String)
  | failed (text : String)
  | badSource
  deriving DecidableEq, Repr, Inhabited

/-- The wording of a fault. -/
def LoadFault.message : LoadFault → String
  | notFound path => "File not found: " ++ path
  | failed text => text
  | badSource => ""

/-- A document with the name of its source, or a fault, and what was said. -/
abbrev Loaded := Except LoadFault (String × Value) × List Log.Record

/-- The name of the logger. -/
def loggerName : String := "lexgen.utils"

/-- A record of loading. -/
def say (level : Log.Level) (text : String) : Log.Record := ⟨level, loggerName, text⟩

/-- Fails with a text that is said as well. -/
def refuse (before : List Log.Record) (text : String) : Loaded :=
  (.error (.failed text), before ++ [say .error text])

/-- Fails with a text, and says another. -/
def refuseSaying (before : List Log.Record) (said text : String) : Loaded :=
  (.error (.failed text), before ++ [say .error said])

-- ---------------------------------------------------------------------------
-- Files
-- ---------------------------------------------------------------------------

/-- The document in a file. -/
def fromFile (files : Tree) (path : String) : Loaded :=
  let location := Location.read path
  let name := location.text
  match files.find location with
  | none => (.error (.notFound name), [say .error ("File not found: " ++ name)])
  | some entry =>
    let before :=
      if location.extension == ".json" then []
      else [say .warning ("File does not have .json extension: " ++ name)]
    match entry with
    | .directory =>
      refuse before ("Error reading file " ++ name ++ ": " ++ (FileFault.isDirectory name).message)
    | .file bytes =>
      match Encoding.fileText bytes with
      | .error e => refuse before ("File " ++ name ++ " is not valid UTF-8: " ++ e.message)
      | .ok text =>
        match Json.read (String.ofList text) with
        | .error e => refuse before ("Invalid JSON in file " ++ name ++ ": " ++ e.message)
        | .ok value => (.ok (name, value), before ++ [say .info ("Loaded lexicon from " ++ name)])

-- ---------------------------------------------------------------------------
-- Stream
-- ---------------------------------------------------------------------------

/-- The document in the input stream. -/
def fromStream (input : List UInt8) : Loaded :=
  match Encoding.fileText input with
  | .error e => refuse [] ("Standard input is not valid UTF-8: " ++ e.message)
  | .ok text =>
    match Json.read (String.ofList text) with
    | .error e => refuse [] ("Invalid JSON on standard input: " ++ e.message)
    | .ok value => (.ok ("<stdin>", value), [])

-- ---------------------------------------------------------------------------
-- Web
-- ---------------------------------------------------------------------------

/-- Does the text contain another one? -/
def contains (text : List Char) (part : List Char) : Bool :=
  match text with
  | [] => part.isEmpty
  | c :: rest => part.isPrefixOf (c :: rest) || contains rest part

/-- The document that an answer holds. -/
def fromAnswer (url : String) (status : Int) (contentType text : String) : Loaded :=
  if 400 ≤ status && status < 600 then
    refuse [] ("HTTP error " ++ toString status ++ " for URL: " ++ url)
  else
    let type := Text.lower contentType.toList
    let before :=
      if contains type "application/json".toList || ".json".toList.isSuffixOf url.toList then []
      else
        [say .warning ("URL " ++ url ++ " does not have JSON content type: " ++
          String.ofList type)]
    match Json.read text with
    | .error e => refuse before ("Invalid JSON response from URL " ++ url ++ ": " ++ e.message)
    | .ok value => (.ok (url, value), before ++ [say .info ("Loaded lexicon from " ++ url)])

/-- The document at an address. -/
def fromUrl (response : Response) (url : String) : Loaded :=
  match isUrl url with
  | .error _ => (.error .badSource, [])
  | .ok false => refuseSaying [] ("Invalid URL format: " ++ url) ("Invalid URL: " ++ url)
  | .ok true =>
    match response with
    | .timeout => refuse [] ("Request timeout for URL: " ++ url)
    | .noConnection text =>
      refuseSaying [] ("Connection error for URL " ++ url ++ ": " ++ text)
        ("Connection error for URL: " ++ url)
    | .failure text => refuse [] ("Request error for URL " ++ url ++ ": " ++ text)
    | .answer status contentType text => fromAnswer url status contentType text

-- ---------------------------------------------------------------------------
-- Choice
-- ---------------------------------------------------------------------------

/-- The document in a file or at an address, of which exactly one is given. An empty
text is as good as none. -/
def fromEither (world : World) (path url : Option String) : Loaded :=
  match path.filter (· != ""), url.filter (· != "") with
  | none, none =>
    refuseSaying [] "Neither file_path nor url provided"
      "Either file_path or url must be provided"
  | some _, some _ =>
    refuseSaying [] "Both file_path and url provided" "Cannot specify both file_path and url"
  | some path, none => fromFile world.files path
  | none, some url => fromUrl world.response url

/-- The source that stands for the input stream. -/
def streamName : String := "-"

/-- The document of a source: the input stream, an address, or a file. -/
def fromSource (world : World) (source : String) : Loaded × World :=
  if source == streamName then (fromStream world.input, { world with input := [] })
  else
    match isUrl source with
    | .error _ => ((.error .badSource, []), world)
    | .ok true => (fromEither world none (some source), world)
    | .ok false => (fromEither world (some source) none, world)

end Lexicon.Source
