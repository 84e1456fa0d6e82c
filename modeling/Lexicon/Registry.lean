import Lexicon.Text.Case

/-!
# Lexicon — the registry of generators

Generators are registered under the name of a language, and found under that name or
an alias of it. Names are compared in small letters.

* `GeneratorKind`     — a kind of generator.
* `Registry`          — the registered kinds and the aliases.
* `Registry.register`, `unregister` — enter a language, and remove it.
* `Registry.resolve`  — the language that a name stands for.
* `Registry.kindOf`   — the kind of generator that a name stands for.
* `Registry.builtIn`  — the registry that the program starts with.

Registering stops at the first alias that cannot be entered; what was entered before
stays, so the registry is returned beside the fault.
-/

namespace Lexicon

-- ---------------------------------------------------------------------------
-- Kinds and faults
-- ---------------------------------------------------------------------------

/-- A kind of generator: its own name, and the language and extension of what it
generates. -/
structure GeneratorKind where
  name : String
  language : String
  extension : String
  deriving DecidableEq, Repr, Inhabited

/-- The kind of generator that comes with the program. -/
def GeneratorKind.rust : GeneratorKind :=
  { name := "RustGenerator", language := "rust", extension := ".rs" }

/-- Why a name is not entered, or not found. -/
inductive RegistryFault where
  | notAGenerator
  | aliasIsLanguage (byname : String)
  | aliasTaken (byname language : String)
  | unknown (name : String) (available : List String)
  deriving DecidableEq, Repr, Inhabited

/-- The wording of a fault. -/
def RegistryFault.message : RegistryFault → String
  | notAGenerator => "Generator class must inherit from CodeGenerator"
  | aliasIsLanguage byname => "Alias '" ++ byname ++ "' conflicts with existing primary language"
  | aliasTaken byname language => "Alias '" ++ byname ++ "' already points to '" ++ language ++ "'"
  | unknown name available =>
    "No generator registered for language: " ++ name ++ ". Available: " ++
      ", ".intercalate available

-- ---------------------------------------------------------------------------
-- Tables
-- ---------------------------------------------------------------------------

/-- Sets what a key stands for: an existing key keeps its place, a new one goes last. -/
def assign {α : Type} (key : String) (value : α) : List (String × α) → List (String × α)
  | [] => [(key, value)]
  | (k, v) :: rest => if k = key then (key, value) :: rest else (k, v) :: assign key value rest

/-- Names in the order of their code points. -/
def sortNames (names : List String) : List String := names.mergeSort fun a b => decide (a ≤ b)

/-- The form in which names are compared. -/
def languageKey (name : String) : String := String.ofList (Text.lower name.toList)

/-- The registered kinds by language, and the languages of the aliases. -/
structure Registry where
  kinds : List (String × GeneratorKind) := []
  aliases : List (String × String) := []
  deriving DecidableEq, Repr, Inhabited

namespace Registry

/-- Is it the key of a registered language? -/
def hasLanguage (registry : Registry) (key : String) : Bool := (registry.kinds.lookup key).isSome

/-- The registered languages, sorted. -/
def languages (registry : Registry) : List String := sortNames (registry.kinds.map Prod.fst)

-- ---------------------------------------------------------------------------
-- Entering
-- ---------------------------------------------------------------------------

/-- Why an alias cannot be entered for a language: it is the name of another one, or
stands for another one. -/
def aliasFault? (registry : Registry) (key byname : String) : Option RegistryFault :=
  if registry.hasLanguage (languageKey byname) then some (.aliasIsLanguage byname)
  else
    match registry.aliases.lookup (languageKey byname) with
    | some other => if other = key then none else some (.aliasTaken byname other)
    | none => none

/-- Enters an alias for a language, whatever it stood for before. -/
def point (registry : Registry) (key byname : String) : Registry :=
  { registry with aliases := assign (languageKey byname) key registry.aliases }

/-- Enters aliases for a language, up to the first one that cannot be. The name of the
language itself is no alias. If `replace`, every alias can be entered. -/
def pointAll (registry : Registry) (key : String) (replace : Bool) :
    List String → Option RegistryFault × Registry
  | [] => (none, registry)
  | byname :: rest =>
    if languageKey byname = key then registry.pointAll key replace rest
    else
      match if replace then none else registry.aliasFault? key byname with
      | some fault => (some fault, registry)
      | none => (registry.point key byname).pointAll key replace rest

/-- Registers a kind of generator, if it is one, for a language with some aliases. A
language that is registered already stays as it is, unless `replace`. -/
def register (registry : Registry) (language : String) (kind : Option GeneratorKind)
    (aliases : List String) (replace : Bool) : Option RegistryFault × Registry :=
  match kind with
  | none => (some .notAGenerator, registry)
  | some kind =>
    let key := languageKey language
    if registry.hasLanguage key && !replace then (none, registry)
    else { registry with kinds := assign key kind registry.kinds }.pointAll key replace aliases

/-- Removes a language and its aliases. -/
def unregister (registry : Registry) (language : String) : Registry :=
  let key := languageKey language
  { kinds := registry.kinds.filter fun e => e.1 != key
    aliases := registry.aliases.filter fun e => e.2 != key }

-- ---------------------------------------------------------------------------
-- Finding
-- ---------------------------------------------------------------------------

/-- The language that a name stands for, if any. -/
def find? (registry : Registry) (name : String) : Option String :=
  let key := languageKey name
  if registry.hasLanguage key then some key else registry.aliases.lookup key

/-- The language that a name stands for. -/
def resolve (registry : Registry) (name : String) : Except RegistryFault String :=
  match registry.find? name with
  | some language => .ok language
  | none => .error (.unknown name registry.languages)

/-- Does the name stand for a language? -/
def supports (registry : Registry) (name : String) : Bool :=
  let key := languageKey name
  registry.hasLanguage key || (registry.aliases.lookup key).isSome

/-- The kind of generator that a name stands for. A name never stands for a language that
is not registered, so the second case is not met. -/
def kindOf (registry : Registry) (name : String) : Except RegistryFault GeneratorKind := do
  let language ← registry.resolve name
  match registry.kinds.lookup language with
  | some kind => return kind
  | none => .error (.unknown language registry.languages)

/-- The aliases of a language, sorted. -/
def aliasesOf (registry : Registry) (language : String) : List String :=
  let key := languageKey language
  sortNames ((registry.aliases.filter fun e => e.2 == key).map Prod.fst)

/-- The registry that the program starts with. -/
def builtIn : Registry :=
  { kinds := [("rust", .rust)], aliases := [("rs", "rust")] }

end Registry

end Lexicon
