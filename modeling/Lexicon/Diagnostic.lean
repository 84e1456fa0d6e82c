import Lexicon.Target.FieldType

/-!
# Lexicon — findings

What is reported about a document beside the text generated from it. A finding never
stops generation.

* `Severity`   — is the document at odds with itself, or merely not supported?
* `Finding`    — what was found, with all that its wording needs.
* `Diagnostic` — a finding and the definition below which it lies.
-/

namespace Lexicon

/-- The two sorts of finding. -/
inductive Severity where
  | inconsistency
  | unsupported
  deriving DecidableEq, Repr, Inhabited

namespace Severity

/-- The name of a sort. -/
def name : Severity → String
  | inconsistency => "schema_inconsistency"
  | unsupported => "unsupported_construct"

/-- The sort of a given name. -/
def ofName? (s : String) : Option Severity :=
  [inconsistency, unsupported].find? fun severity => severity.name == s

end Severity

/-- What was found. A `place` is a property of a struct, and `path` a node. -/
inductive Finding where
  /-- a name is listed as required or nullable that is no property -/
  | notAProperty (name path : String)
  /-- a union has no members -/
  | emptyUnion (path : String)
  /-- a member of a union points to nothing -/
  | unresolvedMember (reference path : String)
  /-- a reference points to nothing -/
  | unresolvedReference (reference path : String)
  /-- a definition's name cannot be a type's name -/
  | badName (name : String)
  /-- a definition is of a kind that is not declared -/
  | notDeclared (kind : Schema.Kind)
  /-- an object described in place has the name of another declaration -/
  | alreadyDeclared (name : String)
  /-- two objects described in place in one struct have one name -/
  | usedByOther (place name : String)
  /-- two members of a union have one name -/
  | sameVariant (variant reference : String)
  /-- a field has the fallback type -/
  | fellBack (place : String) (hint : Target.Hint)
  /-- a remark in the words of whoever made it -/
  | remark (severity : Severity) (text : String)
  deriving Inhabited

namespace Finding

/-- The sort of a finding. -/
def severity : Finding → Severity
  | notDeclared _ => .unsupported
  | fellBack _ _ => .unsupported
  | remark severity _ => severity
  | _ => .inconsistency

/-- The wording of a finding. -/
def message : Finding → String
  | notAProperty name path =>
    "'" ++ name ++ "' is listed as required/nullable in " ++ path ++ " but is not a property"
  | emptyUnion path => "union " ++ path ++ " has no refs"
  | unresolvedMember reference path =>
    "union member '" ++ reference ++ "' in " ++ path ++ " does not resolve to a known definition"
  | unresolvedReference reference path =>
    "reference '" ++ reference ++ "' in " ++ path ++ " does not resolve to a known definition"
  | badName name => "definition name '" ++ name ++ "' is not a valid Rust identifier"
  | notDeclared kind => "top-level '" ++ kind.name ++ "' is not mapped to a declaration"
  | alreadyDeclared name =>
    "nested type name '" ++ name ++ "' is already declared, not generating it again"
  | usedByOther place name =>
    place ++ ": nested type name '" ++ name ++ "' is already used by a different object"
  | sameVariant variant reference =>
    "union members resolve to the same variant '" ++ variant ++ "' ('" ++ reference ++ "')"
  | fellBack place hint => place ++ ": " ++ hint.message
  | remark _ text => text

end Finding

/-- A finding below a definition. -/
structure Diagnostic where
  definition : String
  finding : Finding
  deriving Inhabited

namespace Diagnostic

/-- The sort of the finding. -/
def severity (d : Diagnostic) : Severity := d.finding.severity

/-- The wording of the finding. -/
def message (d : Diagnostic) : String := d.finding.message

/-- The diagnostic in one line. -/
def text (d : Diagnostic) : String :=
  "[" ++ d.severity.name ++ "] " ++ d.definition ++ ": " ++ d.message

end Diagnostic

end Lexicon
