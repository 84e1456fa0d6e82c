import Lexicon.Template.Syntax

/-!
# Lexicon — the templates of declarations

The four templates that a generator is equipped with, each under the name by which it
can be looked up and replaced.

* `structTemplate`, `enumTemplate`, `placeholderTemplate`, `preludeTemplate`.
* `files` — the four of them with their names.
-/

namespace Lexicon.Template

/-- The value of a name. -/
def named (name : String) : Expression := { name }

/-- The value of an attribute of what a name stands for. -/
def member (name key : String) : Expression := { name, attributes := [key] }

/-- A doc comment, one line for each line of the description. -/
def docComment (description : Expression) (indent : List Part) : Part :=
  .each "line" { description with filters := [.docLines] }
    (indent ++ [.text "/// ", .emit (named "line"), .text "\n"])

/-- The line that lists what is derived, if anything is. -/
def deriveLine : Part :=
  .given (named "derives")
    [.text "#[derive(", .emit { name := "derives", filters := [.join ", "] }, .text ")]\n"]

/-- The indented attribute lines of a field or variant. -/
def attributeLines (owner : String) : Part :=
  .each "attribute" (member owner "attributes")
    [.emit (named "indent"), .emit (named "attribute"), .text "\n"]

/-- A struct. -/
def structTemplate : List Part :=
  [docComment (named "description") [],
   deriveLine,
   .text "pub struct ", .emit (named "struct_name"), .text " \x7b\n",
   .each "field" (named "fields")
    [docComment (member "field" "description") [.emit (named "indent")],
     attributeLines "field",
     .emit (named "indent"), .text "pub ", .emit (member "field" "name"), .text ": ",
     .emit (member "field" "type"), .text ",\n"],
   .text "\x7d\n"]

/-- An enum whose variants are told apart by a tag. -/
def enumTemplate : List Part :=
  [docComment (named "description") [],
   deriveLine,
   .text "#[serde(tag = ", .emit { name := "tag", filters := [.literal] }, .text ")]\n",
   .text "pub enum ", .emit (named "enum_name"), .text " \x7b\n",
   .each "variant" (named "variants")
    [attributeLines "variant",
     .emit (named "indent"), .emit (member "variant" "name"), .text ",\n"],
   .text "\x7d\n"]

/-- The comment that stands for a definition which is not declared. -/
def placeholderTemplate : List Part :=
  [.text "/* ", .emit { name := "name", filters := [.blockComment] }, .text ": ",
   .emit (named "kind"), .text " - not generated */\n"]

/-- The head of a generated file. -/
def preludeTemplate : List Part :=
  [.text "// Code generated by lexgen from ",
   .emit { name := "lexicon_id", filters := [.blockComment] }, .text ". DO NOT EDIT.\n",
   .given (named "uses")
    [.text "\n",
     .each "use" (named "uses") [.text "use ", .emit (named "use"), .text ";\n"]]]

/-- The name of the template for structs. -/
def structName : String := "struct.rs.j2"

/-- The name of the template for enums. -/
def enumName : String := "enum.rs.j2"

/-- The name of the template for placeholders. -/
def placeholderName : String := "placeholder.rs.j2"

/-- The name of the template for the head of a file. -/
def preludeName : String := "prelude.rs.j2"

/-- The templates with their names. -/
def files : List (String × List Part) :=
  [(structName, structTemplate), (enumName, enumTemplate),
   (placeholderName, placeholderTemplate), (preludeName, preludeTemplate)]

end Lexicon.Template
