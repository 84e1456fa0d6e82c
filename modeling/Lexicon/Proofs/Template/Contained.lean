import Mathlib.Data.List.Infix
import Lexicon.Proofs.Template.Fillable
import Lexicon.Proofs.Template.Filled

/-!
# Lexicon — what a filled template contains

The text of a filled template is put together from the texts of its pieces, so that each of them
can be found in it character for character.

* `Within`                — a text that stands in another one.
* `within_renderAll`      — the text of a piece stands in that of the template.
* `within_each`           — what is written for an item stands in what is written for all of
                            them.
* `structTemplate_within` — a filled struct contains the attributes of its fields,
  `enumTemplate_within`     a filled enum its tag and the attributes of its variants.
-/

namespace Lexicon.Template

-- ---------------------------------------------------------------------------
-- Texts in texts
-- ---------------------------------------------------------------------------

/-- Does the piece stand in the text, character for character? -/
def Within (piece text : String) : Prop := piece.toList <:+: text.toList

instance (piece text : String) : Decidable (Within piece text) :=
  inferInstanceAs (Decidable (piece.toList <:+: text.toList))

theorem Within.refl (text : String) : Within text text := List.infix_refl _

theorem Within.trans {a b c : String} (hab : Within a b) (hbc : Within b c) : Within a c :=
  List.IsInfix.trans hab hbc

theorem within_append_left (a b : String) : Within a (a ++ b) := by
  rw [Within, String.toList_append]
  exact (List.prefix_append ..).isInfix

theorem within_append_right (a b : String) : Within b (a ++ b) := by
  rw [Within, String.toList_append]
  exact (List.suffix_append ..).isInfix

theorem within_join {texts : List String} {t : String} (ht : t ∈ texts) :
    Within t (String.join texts) := by
  induction texts with
  | nil => cases ht
  | cons first rest ih =>
    rw [String.join_cons]
    rcases List.mem_cons.mp ht with rfl | hLater
    · exact within_append_left ..
    · exact (ih hLater).trans (within_append_right ..)

theorem within_intercalate {separator : String} {texts : List String} {t : String}
    (ht : t ∈ texts) : Within t (separator.intercalate texts) := by
  induction texts with
  | nil => cases ht
  | cons first rest ih =>
    cases rest with
    | nil =>
      obtain rfl := List.mem_singleton.mp ht
      rw [String.intercalate_singleton]
      exact .refl t
    | cons second others =>
      rw [String.intercalate_cons_cons]
      rcases List.mem_cons.mp ht with rfl | hLater
      · exact (within_append_left ..).trans (within_append_left ..)
      · exact (ih hLater).trans (within_append_right ..)

-- ---------------------------------------------------------------------------
-- Pieces
-- ---------------------------------------------------------------------------

/-- **The text of a piece** stands in that of the template. -/
theorem within_renderAll {context : Fields} {parts : List Part} {text : String}
    (h : renderAll context parts = .ok text) {part : Part} (hPart : part ∈ parts) :
    ∃ piece, part.render context = .ok piece ∧ Within piece text := by
  induction parts generalizing text with
  | nil => cases hPart
  | cons first rest ih =>
    obtain ⟨opening, others, hOpening, hOthers, rfl⟩ := renderAll_cons_ok h
    rcases List.mem_cons.mp hPart with rfl | hLater
    · exact ⟨opening, hOpening, within_append_left ..⟩
    · obtain ⟨piece, hPiece, hWithin⟩ := ih hOthers hLater
      exact ⟨piece, hPiece, hWithin.trans (within_append_right ..)⟩

/-- **What is written for an item** stands in what is written for all of them. -/
theorem within_each {context : Fields} {name : String} {items : Expression} {body : List Part}
    {values : List Value} {text : String}
    (h : (Part.each name items body).render context = .ok text)
    (hItems : items.value context = .ok (.list values)) {value : Value} (hValue : value ∈ values) :
    ∃ piece, renderAll (Fields.put name value context) body = .ok piece ∧ Within piece text := by
  rw [Part.render, hItems, ok_bind, itemsOf, ok_bind] at h
  obtain ⟨texts, hTexts, h⟩ := exists_of_bind_ok h
  cases h
  obtain ⟨piece, hMem, hPiece⟩ := exists_mem_of_mapM hTexts hValue
  exact ⟨piece, hPiece, within_join hMem⟩

/-- The value of a name stands in the text. -/
theorem within_named {context : Fields} {parts : List Part} {text name : String} {value : Value}
    (h : renderAll context parts = .ok text) (hPart : .emit (named name) ∈ parts)
    (hValue : context.lookup name = some value) : Within value.display text := by
  obtain ⟨piece, hPiece, hWithin⟩ := within_renderAll h hPart
  rw [Part.render, value_named hValue] at hPiece
  cases hPiece
  exact hWithin

/-- An attribute of an owner stands in the lines of its attributes. -/
theorem attributeLines_within {context : Fields} {owner text : String} {entries : Fields}
    {attributes : List Value} (h : (attributeLines owner).render context = .ok text)
    (hOwner : context.lookup owner = some (.mapping entries))
    (hAttributes : entries.lookup "attributes" = some (.list attributes)) {line : Value}
    (hLine : line ∈ attributes) : Within line.display text := by
  obtain ⟨piece, hPiece, hWithin⟩ := within_each h (value_member hOwner hAttributes) hLine
  have hValue : (Fields.put "attribute" line context).lookup "attribute" = some line :=
    Fields.lookup_put_self ..
  exact (within_named hPiece (by simp) hValue).trans hWithin

-- ---------------------------------------------------------------------------
-- Declarations
-- ---------------------------------------------------------------------------

/-- An attribute of an item stands in a template that repeats the attribute lines of its
items. -/
theorem within_items {context : Fields} {parts body : List Part} {text name items : String}
    {values : List Value} (h : renderAll context parts = .ok text)
    (hPart : .each name (named items) body ∈ parts) (hBody : attributeLines name ∈ body)
    (hItems : context.lookup items = some (.list values))
    {entries : Fields} (hItem : .mapping entries ∈ values) {attributes : List Value}
    (hAttributes : entries.lookup "attributes" = some (.list attributes)) {line : Value}
    (hLine : line ∈ attributes) : Within line.display text := by
  obtain ⟨all, hAll, hWhole⟩ := within_renderAll h hPart
  obtain ⟨one, hOne, hAmong⟩ := within_each hAll (value_named hItems) hItem
  obtain ⟨lines, hRendered, hWithin⟩ := within_renderAll hOne hBody
  have hOwner : (Fields.put name (.mapping entries) context).lookup name =
      some (.mapping entries) := Fields.lookup_put_self ..
  have hFound := attributeLines_within hRendered hOwner hAttributes hLine
  exact ((hFound.trans hWithin).trans hAmong).trans hWhole

/-- A filled struct contains the attributes of its fields. -/
theorem structTemplate_within {context : Fields} {block : String} {fields : List Value}
    (h : renderAll context structTemplate = .ok block)
    (hFields : context.lookup "fields" = some (.list fields))
    {entries : Fields} (hField : .mapping entries ∈ fields) {attributes : List Value}
    (hAttributes : entries.lookup "attributes" = some (.list attributes)) {line : Value}
    (hLine : line ∈ attributes) : Within line.display block :=
  within_items h (List.mem_of_getElem? (i := 5) rfl) (List.mem_of_getElem? (i := 1) rfl) hFields
    hField hAttributes hLine

/-- A filled enum contains the attributes of its variants. -/
theorem enumTemplate_within {context : Fields} {block : String} {variants : List Value}
    (h : renderAll context enumTemplate = .ok block)
    (hVariants : context.lookup "variants" = some (.list variants))
    {entries : Fields} (hVariant : .mapping entries ∈ variants) {attributes : List Value}
    (hAttributes : entries.lookup "attributes" = some (.list attributes)) {line : Value}
    (hLine : line ∈ attributes) : Within line.display block :=
  within_items h (List.mem_of_getElem? (i := 8) rfl) (List.mem_of_getElem? (i := 0) rfl) hVariants
    hVariant hAttributes hLine

/-- And the line that names its tag. -/
theorem enumTemplate_within_tag {context : Fields} {block : String} {tag : Value}
    (h : renderAll context enumTemplate = .ok block)
    (hTag : context.lookup "tag" = some tag) :
    Within ("#[serde(tag = " ++ Target.literal tag.display ++ ")]") block := by
  obtain ⟨comments, _, -, hAfterDoc, rfl⟩ := renderAll_cons_ok h
  obtain ⟨derives, _, -, hAfterDerives, rfl⟩ := renderAll_cons_ok hAfterDoc
  obtain ⟨_, hAtTag, rfl⟩ := renderAll_text_ok hAfterDerives
  obtain ⟨written, _, hWritten, hAfterTag, rfl⟩ := renderAll_cons_ok hAtTag
  obtain ⟨others, -, rfl⟩ := renderAll_text_ok hAfterTag
  have hLiteral := value_filtered .literal rfl (value_named hTag)
  rw [Part.render, show (Expression.mk "tag" [] [.literal]).value context = _ from hLiteral]
    at hWritten
  cases hWritten
  -- the attribute closes before the line feed of its line
  have hLine : "#[serde(tag = " ++ (Target.literal tag.display ++ (")]\n" ++ others)) =
      "#[serde(tag = " ++ Target.literal tag.display ++ ")]" ++ ("\n" ++ others) := by
    rw [show ")]\n" = ")]" ++ "\n" by decide]
    simp only [String.append_assoc]
  refine Within.trans ?_ (within_append_right ..)
  refine Within.trans ?_ (within_append_right ..)
  rw [Value.display, hLine]
  exact within_append_left ..

end Lexicon.Template
