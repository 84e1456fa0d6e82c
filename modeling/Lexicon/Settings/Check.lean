import Lexicon.Naming.Style
import Lexicon.Settings.Basic
import Lexicon.Text.Word

/-!
# Lexicon — doubtful settings

* `Warning`           — what is doubtful, with `message`.
* `Settings.warnings` — the warnings that some settings give cause to. They are no
                        errors: what cannot be used fails where it is used.
-/

namespace Lexicon

/-- A doubtful setting. -/
inductive Warning where
  | fieldCase (value : Value)
  | indentSize (value : Value)
  | derives (value : Value)
  | emptyTag
  | overrides (value : Value)
  deriving Inhabited

/-- The wording of a warning. -/
def Warning.message : Warning → String
  | fieldCase value => "Invalid field_case: " ++ value.display
  | indentSize value => "Invalid indent_size: " ++ value.display
  | derives value => "Invalid derives: " ++ value.display
  | emptyTag => "union_tag must not be empty"
  | overrides value => "Invalid type_overrides: " ++ value.display

namespace Settings

/-- The style of field names that is set. -/
def style? (s : Settings) : Option Naming.Style :=
  match s.fieldCase with
  | .text name => Naming.Style.ofName? name
  | _ => none

/-- Is the value a text that is a word? -/
def isWordText : Value → Bool
  | .text s => Text.isWord s.toList
  | _ => false

/-- Is the value a count? -/
def isCount (value : Value) : Bool :=
  match value.asInt? with
  | some n => 0 ≤ n
  | none => false

/-- Is the value a list of words? -/
def isWordList : Value → Bool
  | .list items => items.all isWordText
  | _ => false

/-- The doubtful settings, in order. A style that is a list or a mapping cannot be
compared with the known ones, and custom settings must be a mapping. -/
def warnings (s : Settings) : Except Mismatch (List Warning) := do
  let style ← match s.fieldCase with
    | .list _ => .error .notUsable
    | .mapping _ => .error .notUsable
    | value => .ok (if s.style?.isSome then [] else [Warning.fieldCase value])
  let indent := if isCount s.indentSize then [] else [Warning.indentSize s.indentSize]
  let derived := if isWordList s.derives then [] else [Warning.derives s.derives]
  let tag := if s.unionTag.truthy then [] else [Warning.emptyTag]
  let overrides ← match ← s.custom? "type_overrides" with
    | none => pure []
    | some (.mapping _) => pure []
    | some value => pure [Warning.overrides value]
  return style ++ indent ++ derived ++ tag ++ overrides

end Settings

end Lexicon
