import Lexicon.Proofs.Template.Fillable
import Lexicon.Proofs.Template.Filled

/-!
# Lexicon — the variants in a filled enum

An enum is written with one variant after the other, each behind its attributes. Nothing else stands
between the line that opens the enum and the brace that closes it.

* `variantText`             — a variant with its attributes, as it is written.
* `attributeLines_text`     — attributes are written one on each line.
* `enumTemplate_variants`   — what stands in a filled enum is the text of its variants.
-/

namespace Lexicon.Template

/-- An attribute on a line of its own. -/
def attributeLine (indent line : String) : String := indent ++ line ++ "\n"

/-- A variant as it is written: a line for each of its attributes, and one for itself. -/
def variantText (indent declared : String) (attributes : List String) : String :=
  String.join (attributes.map (attributeLine indent)) ++ (indent ++ declared ++ ",\n")

/-- A variant as the template of an enum sees it. -/
def variantMapping (declared : String) (attributes : List String) : Value :=
  .mapping [("name", .text declared), ("attributes", .list (attributes.map .text))]

/-- Attributes are written one on each line. -/
theorem attributeLines_text {context entries : Fields} {owner indent text : String}
    {attributes : List String} (h : (attributeLines owner).render context = .ok text)
    (hOwner : context.lookup owner = some (.mapping entries))
    (hAttributes : entries.lookup "attributes" = some (.list (attributes.map .text)))
    (hIndent : context.lookup "indent" = some (.text indent)) :
    text = String.join (attributes.map (attributeLine indent)) := by
  refine each_text (attributeLine indent) h (value_member hOwner hAttributes) ?_
  intro line _ t hLine
  have hBefore : (Fields.put "attribute" (.text line) context).lookup "indent" =
      some (.text indent) := (Fields.lookup_put_of_ne (by decide) ..).trans hIndent
  have hValue : (Fields.put "attribute" (.text line) context).lookup "attribute" =
      some (.text line) := Fields.lookup_put_self ..
  obtain ⟨_, hAtAttribute, rfl⟩ := renderAll_named_ok hBefore hLine
  obtain ⟨_, hAfterAttribute, rfl⟩ := renderAll_named_ok hValue hAtAttribute
  obtain ⟨_, hEnd, rfl⟩ := renderAll_text_ok hAfterAttribute
  rw [renderAll_nil_ok hEnd]
  simp [attributeLine, String.append_assoc, Value.display]

/-- **What stands in a filled enum** is the text of its variants. -/
theorem enumTemplate_variants {context : Fields} {name indent block : String}
    {variants : List (String × List String)}
    (hName : context.lookup "enum_name" = some (.text name))
    (hIndent : context.lookup "indent" = some (.text indent))
    (hVariants : context.lookup "variants" =
      some (.list (variants.map fun variant => variantMapping variant.1 variant.2)))
    (h : renderAll context enumTemplate = .ok block) :
    ∃ lead, WholeLines lead ∧
      block = lead ++ ("pub enum " ++ name ++ " \x7b\n" ++
        String.join (variants.map fun variant => variantText indent variant.1 variant.2) ++
        "\x7d\n") := by
  obtain ⟨lead, text, hLead, hText, rfl⟩ := enumTemplate_pieces hName h
  refine ⟨lead, hLead, ?_⟩
  rw [each_text (fun variant => variantText indent variant.1 variant.2) hText
    (value_named hVariants) ?_]
  intro variant _ t hVariant
  have hOwner : (Fields.put "variant" (variantMapping variant.1 variant.2) context).lookup
      "variant" = some (variantMapping variant.1 variant.2) := Fields.lookup_put_self ..
  have hBefore : (Fields.put "variant" (variantMapping variant.1 variant.2) context).lookup
      "indent" = some (.text indent) := (Fields.lookup_put_of_ne (by decide) ..).trans hIndent
  obtain ⟨lines, _, hLines, hAtIndent, rfl⟩ := renderAll_cons_ok hVariant
  obtain ⟨_, hAtName, rfl⟩ := renderAll_named_ok hBefore hAtIndent
  obtain ⟨declared, _, hDeclared, hAfterName, rfl⟩ := renderAll_cons_ok hAtName
  obtain ⟨_, hEnd, rfl⟩ := renderAll_text_ok hAfterName
  rw [renderAll_nil_ok hEnd, attributeLines_text hLines hOwner rfl hBefore]
  rw [Part.render, value_member hOwner rfl] at hDeclared
  cases hDeclared
  simp [variantText, String.append_assoc, Value.display]

end Lexicon.Template
