import Lexicon.Proofs.Fallible
import Lexicon.Template.Store

/-!
# Lexicon — templates that can be filled

A template is filled from a context, and a name that the context lacks is a fault. The built-in
templates can be filled from every context that gives each of their names a value of the right
sort; nothing else about the values matters.

* `Fills`, `FillsAll`     — a piece, or a template, can be filled from a context.
* `fills_named`, `fills_each`, `fills_given`, `docComment_fills` — when pieces can be filled.
* `structTemplate_fills`, `enumTemplate_fills`, `placeholderTemplate_fills`,
  `preludeTemplate_fills` — what the built-in templates need of a context.
-/

namespace Lexicon.Template

open Lexicon.Text

-- ---------------------------------------------------------------------------
-- Pieces
-- ---------------------------------------------------------------------------

/-- Can the piece be filled from the context? -/
def Fills (context : Fields) (part : Part) : Prop := ∃ text, part.render context = .ok text

/-- Can the template be filled from the context? -/
def FillsAll (context : Fields) (parts : List Part) : Prop :=
  ∃ text, renderAll context parts = .ok text

theorem FillsAll.nil {context : Fields} : FillsAll context [] := ⟨"", by rw [renderAll]⟩

theorem FillsAll.cons {context : Fields} {part : Part} {rest : List Part}
    (hPart : Fills context part) (hRest : FillsAll context rest) :
    FillsAll context (part :: rest) := by
  obtain ⟨text, hText⟩ := hPart
  obtain ⟨others, hOthers⟩ := hRest
  exact ⟨text ++ others, by rw [renderAll, hText, hOthers]; rfl⟩

theorem FillsAll.append {context : Fields} {parts rest : List Part}
    (hParts : ∀ part ∈ parts, Fills context part) (hRest : FillsAll context rest) :
    FillsAll context (parts ++ rest) := by
  induction parts with
  | nil => exact hRest
  | cons part others ih =>
    exact .cons (hParts part (List.mem_cons_self ..)) (ih fun p hp =>
      hParts p (List.mem_cons_of_mem _ hp))

theorem fills_text (context : Fields) (s : String) : Fills context (.text s) :=
  ⟨s, by rw [Part.render]⟩

theorem fills_emit {context : Fields} {e : Expression} {value : Value}
    (h : e.value context = .ok value) : Fills context (.emit e) :=
  ⟨value.display, by rw [Part.render, h]; rfl⟩

/-- A part that stands under a condition needs filling only if the condition is switched on. -/
theorem fills_given {context : Fields} {condition : Expression} {body : List Part} {value : Value}
    (hCondition : condition.value context = .ok value)
    (hBody : value.truthy = true → FillsAll context body) :
    Fills context (.given condition body) := by
  by_cases hOn : value.truthy = true
  · obtain ⟨text, hText⟩ := hBody hOn
    refine ⟨text, ?_⟩
    rw [Part.render, hCondition]
    show (if value.truthy then renderAll context body else _) = _
    rw [if_pos hOn, hText]
  · refine ⟨"", ?_⟩
    rw [Part.render, hCondition]
    show (if value.truthy then renderAll context body else _) = _
    rw [if_neg hOn]
    rfl

/-- A repeated part must be filled once for each item. -/
theorem fills_each {context : Fields} {name : String} {items : Expression} {body : List Part}
    {values : List Value} (hItems : items.value context = .ok (.list values))
    (hBody : ∀ value ∈ values, FillsAll (Fields.put name value context) body) :
    Fills context (.each name items body) := by
  obtain ⟨texts, hTexts⟩ := exists_mapM_ok hBody
  refine ⟨String.join texts, ?_⟩
  rw [Part.render, hItems]
  show (values.mapM (fun value => renderAll (Fields.put name value context) body) >>=
    fun texts => Except.ok (String.join texts)) = _
  rw [hTexts]
  rfl

-- ---------------------------------------------------------------------------
-- Expressions
-- ---------------------------------------------------------------------------

theorem value_named {context : Fields} {name : String} {value : Value}
    (h : context.lookup name = some value) : (named name).value context = .ok value := by
  rw [Expression.value, named, h]
  rfl

theorem value_member {context : Fields} {name key : String} {entries : Fields} {value : Value}
    (hName : context.lookup name = some (.mapping entries))
    (hKey : entries.lookup key = some value) : (member name key).value context = .ok value := by
  have hAttribute : attributeOf (.mapping entries) key = .ok value := by
    rw [attributeOf, hKey]
  rw [Expression.value, member, hName]
  show ([key].foldlM attributeOf (.mapping entries) >>= _) = _
  rw [List.foldlM_cons, hAttribute]
  rfl

/-- A filter takes what an expression stands for without it. -/
theorem value_filtered {context : Fields} {e : Expression} {value : Value} (filter : Filter)
    (hFilters : e.filters = []) (h : e.value context = .ok value) :
    ({ e with filters := [filter] } : Expression).value context = filter.apply value := by
  rw [Expression.value, hFilters] at h
  rw [Expression.value]
  cases hFound : context.lookup e.name with
  | none =>
    rw [hFound] at h
    cases h
  | some found =>
    rw [hFound] at h
    obtain ⟨_, hSame, h⟩ := exists_of_bind_ok h
    cases hSame
    obtain ⟨inner, hInner, h⟩ := exists_of_bind_ok h
    cases h
    show (e.attributes.foldlM attributeOf found >>= fun inner =>
      [filter].foldlM (fun value filter => filter.apply value) inner) = _
    rw [hInner]
    show (filter.apply value >>= fun value => [].foldlM _ value) = _
    cases filter.apply value <;> rfl

theorem fills_named {context : Fields} {name : String} {value : Value}
    (h : context.lookup name = some value) : Fills context (.emit (named name)) :=
  fills_emit (value_named h)

/-- Whatever a description is, it makes lines of a comment. -/
theorem exists_docLines (value : Value) : ∃ lines, Filter.docLines.apply value = .ok (.list lines) := by
  rw [Filter.apply]
  split
  · exact ⟨_, rfl⟩
  · exact ⟨_, rfl⟩

-- ---------------------------------------------------------------------------
-- Lines
-- ---------------------------------------------------------------------------

/-- A comment can be written for any description, if what stands before its lines can. -/
theorem docComment_fills {context : Fields} {description : Expression} {value : Value}
    {indent : List Part} (hFilters : description.filters = [])
    (hDescription : description.value context = .ok value)
    (hIndent : ∀ line, ∀ part ∈ indent, Fills (Fields.put "line" line context) part) :
    Fills context (docComment description indent) := by
  obtain ⟨lines, hLines⟩ := exists_docLines value
  refine fills_each ((value_filtered .docLines hFilters hDescription).trans hLines) ?_
  intro line _
  have hLine : (Fields.put "line" line context).lookup "line" = some line :=
    Fields.lookup_put_self ..
  exact .append (hIndent line) <| .cons (fills_text ..) <| .cons (fills_named hLine) <|
    .cons (fills_text ..) .nil

/-- What is derived can be listed if it is a list. -/
theorem deriveLine_fills {context : Fields} {derives : List Value}
    (h : context.lookup "derives" = some (.list derives)) : Fills context deriveLine := by
  have hList := value_filtered (.join ", ") rfl (value_named h)
  refine fills_given (value_named h) fun _ => ?_
  exact .cons (fills_text ..) <| .cons (fills_emit hList) <| .cons (fills_text ..) .nil

/-- Attribute lines can be written if the attributes are a list. -/
theorem attributeLines_fills {context : Fields} {owner : String} {entries : Fields}
    {attributes : List Value} {indent : Value}
    (hOwner : context.lookup owner = some (.mapping entries))
    (hAttributes : entries.lookup "attributes" = some (.list attributes))
    (hIndent : context.lookup "indent" = some indent) : Fills context (attributeLines owner) := by
  refine fills_each (value_member hOwner hAttributes) fun line _ => ?_
  have hBefore : (Fields.put "attribute" line context).lookup "indent" = some indent :=
    (Fields.lookup_put_of_ne (by decide) ..).trans hIndent
  have hLine : (Fields.put "attribute" line context).lookup "attribute" = some line :=
    Fields.lookup_put_self ..
  exact .cons (fills_named hBefore) <| .cons (fills_named hLine) <| .cons (fills_text ..) .nil

-- ---------------------------------------------------------------------------
-- Declarations
-- ---------------------------------------------------------------------------

/-- `Offers keys value`: the value is a mapping with something under each of the keys, and with a
list of attributes. Fields and variants are written from such values. -/
def Offers (keys : List String) (value : Value) : Prop :=
  ∃ entries attributes, value = .mapping entries ∧
    entries.lookup "attributes" = some (.list attributes) ∧
    ∀ key ∈ keys, ∃ inner, entries.lookup key = some inner

section Declarations

variable {context : Fields} {name description indent : Value} {derives : List Value}

/-- A struct can be written if its fields are a list of values that offer what a field needs. -/
theorem structTemplate_fills {fields : List Value}
    (hName : context.lookup "struct_name" = some name)
    (hDescription : context.lookup "description" = some description)
    (hDerives : context.lookup "derives" = some (.list derives))
    (hFields : context.lookup "fields" = some (.list fields))
    (hIndent : context.lookup "indent" = some indent)
    (hOffers : ∀ field ∈ fields, Offers ["name", "type", "description"] field) :
    FillsAll context structTemplate := by
  refine .cons (docComment_fills rfl (value_named hDescription) fun _ _ h => by cases h) <|
    .cons (deriveLine_fills hDerives) <| .cons (fills_text ..) <| .cons (fills_named hName) <|
    .cons (fills_text ..) <| .cons (fills_each (value_named hFields) fun field hField => ?_) <|
    .cons (fills_text ..) .nil
  obtain ⟨entries, attributes, rfl, hAttributes, hKeys⟩ := hOffers field hField
  obtain ⟨fieldName, hFieldName⟩ := hKeys "name" (by decide)
  obtain ⟨fieldType, hFieldType⟩ := hKeys "type" (by decide)
  obtain ⟨comment, hComment⟩ := hKeys "description" (by decide)
  -- the field stands beside what the struct is written from
  have hOwner : (Fields.put "field" (.mapping entries) context).lookup "field" =
      some (.mapping entries) := Fields.lookup_put_self ..
  have hBefore : (Fields.put "field" (.mapping entries) context).lookup "indent" = some indent :=
    (Fields.lookup_put_of_ne (by decide) ..).trans hIndent
  refine .cons (docComment_fills rfl (value_member hOwner hComment) fun line part hPart => ?_) <|
    .cons (attributeLines_fills hOwner hAttributes hBefore) <| .cons (fills_named hBefore) <|
    .cons (fills_text ..) <| .cons (fills_emit (value_member hOwner hFieldName)) <|
    .cons (fills_text ..) <| .cons (fills_emit (value_member hOwner hFieldType)) <|
    .cons (fills_text ..) .nil
  rw [List.mem_singleton.mp hPart]
  exact fills_named ((Fields.lookup_put_of_ne (by decide) ..).trans hBefore)

/-- An enum can be written if its variants are a list of values that offer what a variant
needs. -/
theorem enumTemplate_fills {tag : Value} {variants : List Value}
    (hName : context.lookup "enum_name" = some name)
    (hDescription : context.lookup "description" = some description)
    (hDerives : context.lookup "derives" = some (.list derives))
    (hTag : context.lookup "tag" = some tag)
    (hVariants : context.lookup "variants" = some (.list variants))
    (hIndent : context.lookup "indent" = some indent)
    (hOffers : ∀ variant ∈ variants, Offers ["name"] variant) :
    FillsAll context enumTemplate := by
  refine .cons (docComment_fills rfl (value_named hDescription) fun _ _ h => by cases h) <|
    .cons (deriveLine_fills hDerives) <| .cons (fills_text ..) <|
    .cons (fills_emit (value_filtered .literal rfl (value_named hTag))) <|
    .cons (fills_text ..) <| .cons (fills_text ..) <| .cons (fills_named hName) <|
    .cons (fills_text ..) <| .cons (fills_each (value_named hVariants) fun variant hVariant => ?_) <|
    .cons (fills_text ..) .nil
  obtain ⟨entries, attributes, rfl, hAttributes, hKeys⟩ := hOffers variant hVariant
  obtain ⟨variantName, hVariantName⟩ := hKeys "name" (by decide)
  have hOwner : (Fields.put "variant" (.mapping entries) context).lookup "variant" =
      some (.mapping entries) := Fields.lookup_put_self ..
  have hBefore : (Fields.put "variant" (.mapping entries) context).lookup "indent" =
      some indent := (Fields.lookup_put_of_ne (by decide) ..).trans hIndent
  exact .cons (attributeLines_fills hOwner hAttributes hBefore) <| .cons (fills_named hBefore) <|
    .cons (fills_emit (value_member hOwner hVariantName)) <| .cons (fills_text ..) .nil

end Declarations

/-- A placeholder can be written for any name and kind. -/
theorem placeholderTemplate_fills {context : Fields} {name kind : Value}
    (hName : context.lookup "name" = some name) (hKind : context.lookup "kind" = some kind) :
    FillsAll context placeholderTemplate := by
  have hSafe := value_filtered .blockComment rfl (value_named hName)
  exact .cons (fills_text ..) <| .cons (fills_emit hSafe) <| .cons (fills_text ..) <|
    .cons (fills_named hKind) <| .cons (fills_text ..) .nil

/-- The head of a file can be written for any id and any list of what is used. -/
theorem preludeTemplate_fills {context : Fields} {id : Value} {uses : List Value}
    (hId : context.lookup "lexicon_id" = some id)
    (hUses : context.lookup "uses" = some (.list uses)) : FillsAll context preludeTemplate := by
  have hSafe := value_filtered .blockComment rfl (value_named hId)
  have hLines : Fills context (.each "use" (named "uses")
      [.text "use ", .emit (named "use"), .text ";\n"]) := by
    refine fills_each (value_named hUses) fun use _ => ?_
    have hUse : (Fields.put "use" use context).lookup "use" = some use :=
      Fields.lookup_put_self ..
    exact .cons (fills_text ..) <| .cons (fills_named hUse) <| .cons (fills_text ..) .nil
  exact .cons (fills_text ..) <| .cons (fills_emit hSafe) <| .cons (fills_text ..) <|
    .cons (fills_given (value_named hUses) fun _ => .cons (fills_text ..) (.cons hLines .nil)) .nil

end Lexicon.Template
