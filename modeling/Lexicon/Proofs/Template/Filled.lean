import Lexicon.Template.Store
import Lexicon.Proofs.Fallible

/-!
# Lexicon — filled templates

What the built-in templates write, read off their pieces. A declaration opens at the start
of a line with its keyword and the name it declares, and it closes with a brace on a line
of its own; a definition that is not declared leaves one comment.

* `renderAll_cons_ok`    — a filled template is its filled pieces, one after the other.
* `WholeLines`           — a row of lines, each with its line feed; `Opens` says where the
                           declaration of a name stands among them.
* `Store.Original`       — a store to which nothing was added; it finds the built-in
                           templates, and looking one up leaves it so.
* `structTemplate_opens`, `enumTemplate_opens`, `placeholderTemplate_text`,
  `preludeTemplate_text` — the text of a struct, of an enum, of a placeholder and of the head of
                           a file.
-/

namespace Lexicon.Template

open Lexicon.Text

-- ---------------------------------------------------------------------------
-- Pieces
-- ---------------------------------------------------------------------------

/-- A filled template is the text of its first piece and that of the others. -/
theorem renderAll_cons_ok {context : Fields} {part : Part} {rest : List Part} {text : String}
    (h : renderAll context (part :: rest) = .ok text) :
    ∃ first others, part.render context = .ok first ∧ renderAll context rest = .ok others ∧
      text = first ++ others := by
  rw [renderAll] at h
  obtain ⟨first, hFirst, h⟩ := exists_of_bind_ok h
  obtain ⟨others, hOthers, h⟩ := exists_of_bind_ok h
  cases h
  exact ⟨first, others, hFirst, hOthers, rfl⟩

theorem renderAll_nil_ok {context : Fields} {text : String}
    (h : renderAll context [] = .ok text) : text = "" := by
  rw [renderAll] at h
  cases h
  rfl

theorem render_text_ok {context : Fields} {s text : String}
    (h : (Part.text s).render context = .ok text) : text = s := by
  rw [Part.render] at h
  cases h
  rfl

/-- A template that opens with a text. -/
theorem renderAll_text_ok {context : Fields} {s : String} {rest : List Part} {text : String}
    (h : renderAll context (.text s :: rest) = .ok text) :
    ∃ others, renderAll context rest = .ok others ∧ text = s ++ others := by
  obtain ⟨first, others, hFirst, hOthers, rfl⟩ := renderAll_cons_ok h
  rw [render_text_ok hFirst]
  exact ⟨others, hOthers, rfl⟩

/-- A template that opens with the place of a name. -/
theorem renderAll_named_ok {context : Fields} {name : String} {value : Value} {rest : List Part}
    {text : String} (hValue : context.lookup name = some value)
    (h : renderAll context (.emit (named name) :: rest) = .ok text) :
    ∃ others, renderAll context rest = .ok others ∧ text = value.display ++ others := by
  obtain ⟨first, others, hFirst, hOthers, rfl⟩ := renderAll_cons_ok h
  rw [Part.render, Expression.value, named, hValue] at hFirst
  cases hFirst
  exact ⟨others, hOthers, rfl⟩

/-- A template that closes with a text. -/
theorem renderAll_concat_text_ok {context : Fields} {body : List Part} {s text : String}
    (h : renderAll context (body ++ [.text s]) = .ok text) : ∃ before, text = before ++ s := by
  induction body generalizing text with
  | nil =>
    obtain ⟨others, hOthers, rfl⟩ := renderAll_text_ok h
    rw [renderAll_nil_ok hOthers, String.append_empty]
    exact ⟨"", (String.empty_append ..).symm⟩
  | cons part rest ih =>
    obtain ⟨first, others, -, hOthers, rfl⟩ := renderAll_cons_ok h
    obtain ⟨before, rfl⟩ := ih hOthers
    exact ⟨first ++ before, (String.append_assoc ..).symm⟩

/-- What is written for the items of a list, if it is known for each of them. -/
theorem each_text {α : Type} (written : α → String) {context : Fields} {name text : String}
    {items : Expression} {body : List Part} {told : α → Value} {list : List α}
    (h : (Part.each name items body).render context = .ok text)
    (hItems : items.value context = .ok (.list (list.map told)))
    (hBody : ∀ a ∈ list, ∀ t,
      renderAll (Fields.put name (told a) context) body = .ok t → t = written a) :
    text = String.join (list.map written) := by
  rw [Part.render, hItems, ok_bind, itemsOf, ok_bind, List.mapM_map] at h
  obtain ⟨texts, hTexts, h⟩ := exists_of_bind_ok h
  cases h
  rw [eq_map_of_mapM_ok hTexts hBody]

-- ---------------------------------------------------------------------------
-- Whole lines
-- ---------------------------------------------------------------------------

/-- Is the text a row of whole lines, each with its line feed? -/
def WholeLines (text : String) : Prop := text = "" ∨ ∃ lines, text = lines ++ "\n"

theorem WholeLines.append {a b : String} (ha : WholeLines a) (hb : WholeLines b) :
    WholeLines (a ++ b) := by
  rcases hb with rfl | ⟨lines, rfl⟩
  · rwa [String.append_empty]
  · exact Or.inr ⟨a ++ lines, (String.append_assoc ..).symm⟩

theorem WholeLines.join {texts : List String} (h : ∀ t ∈ texts, WholeLines t) :
    WholeLines (String.join texts) := by
  induction texts with
  | nil => exact Or.inl rfl
  | cons t rest ih =>
    rw [String.join_cons]
    exact (h t (List.mem_cons_self ..)).append (ih fun x hx => h x (List.mem_cons_of_mem _ hx))

/-- A text that ends in a line feed closes the line that it stands in. -/
theorem wholeLines_closed (opening : String) {last : String}
    (hLast : ∃ before, last = before ++ "\n") : WholeLines (opening ++ last) := by
  obtain ⟨before, rfl⟩ := hLast
  exact Or.inr ⟨opening ++ before, (String.append_assoc ..).symm⟩

/-- A template whose last piece closes a line fills whole lines. -/
theorem renderAll_wholeLines {context : Fields} {parts : List Part} {last text : String}
    (h : renderAll context parts = .ok text) (hParts : parts.getLast? = some (.text last))
    (hLast : ∃ before, last = before ++ "\n") : WholeLines text := by
  obtain ⟨others, rfl⟩ := List.getLast?_eq_some_iff.mp hParts
  obtain ⟨opening, rfl⟩ := renderAll_concat_text_ok h
  exact wholeLines_closed opening hLast

/-- So does a part that repeats such a template. -/
theorem each_wholeLines {context : Fields} {name last : String} {items : Expression}
    {body : List Part} {text : String}
    (h : (Part.each name items body).render context = .ok text)
    (hBody : body.getLast? = some (.text last)) (hLast : ∃ before, last = before ++ "\n") :
    WholeLines text := by
  rw [Part.render] at h
  obtain ⟨value, -, h⟩ := exists_of_bind_ok h
  obtain ⟨values, -, h⟩ := exists_of_bind_ok h
  obtain ⟨texts, hTexts, h⟩ := exists_of_bind_ok h
  cases h
  refine WholeLines.join fun t ht => ?_
  obtain ⟨v, -, hv⟩ := exists_of_mem_mapM hTexts t ht
  exact renderAll_wholeLines hv hBody hLast

theorem docComment_wholeLines {context : Fields} {description : Expression} {text : String}
    (h : (docComment description []).render context = .ok text) : WholeLines text :=
  each_wholeLines h rfl ⟨"", by decide⟩

theorem deriveLine_wholeLines {context : Fields} {text : String}
    (h : deriveLine.render context = .ok text) : WholeLines text := by
  rw [deriveLine, Part.render] at h
  obtain ⟨value, -, h⟩ := exists_of_bind_ok h
  split at h
  · exact renderAll_wholeLines h rfl ⟨")]", by decide⟩
  · cases h
    exact Or.inl rfl

-- ---------------------------------------------------------------------------
-- Declarations
-- ---------------------------------------------------------------------------

/-- `Opens keyword name block`: after whole lines comes one that opens the declaration of
`name`, and a brace on a line of its own closes the block. -/
def Opens (keyword name block : String) : Prop :=
  ∃ lead body, WholeLines lead ∧ WholeLines body ∧
    block = lead ++ ("pub " ++ keyword ++ " " ++ name ++ " \x7b\n" ++ body ++ "\x7d\n")

/-- What a filled struct looks like. -/
theorem structTemplate_opens {context : Fields} {name block : String}
    (hName : context.lookup "struct_name" = some (.text name))
    (h : renderAll context structTemplate = .ok block) : Opens "struct" name block := by
  obtain ⟨comments, _, hDoc, hAfterDoc, rfl⟩ := renderAll_cons_ok h
  obtain ⟨derives, _, hDerives, hAfterDerives, rfl⟩ := renderAll_cons_ok hAfterDoc
  obtain ⟨_, hAtName, rfl⟩ := renderAll_text_ok hAfterDerives
  obtain ⟨_, hAfterName, rfl⟩ := renderAll_named_ok hName hAtName
  obtain ⟨_, hFields, rfl⟩ := renderAll_text_ok hAfterName
  obtain ⟨fields, _, hEach, hClosing, rfl⟩ := renderAll_cons_ok hFields
  obtain ⟨_, hEnd, rfl⟩ := renderAll_text_ok hClosing
  rw [renderAll_nil_ok hEnd]
  -- the comment and the derived traits stand on lines before the name
  refine ⟨comments ++ derives, fields,
    (docComment_wholeLines hDoc).append (deriveLine_wholeLines hDerives), ?_, ?_⟩
  · exact each_wholeLines hEach rfl ⟨",", by decide⟩
  · simp [String.append_assoc, Value.display]

/-- The part of an enum that is repeated for its variants. -/
def variantsPart : Part :=
  .each "variant" (named "variants")
    [attributeLines "variant",
     .emit (named "indent"), .emit (member "variant" "name"), .text ",\n"]

/-- The pieces of a filled enum. -/
theorem enumTemplate_pieces {context : Fields} {name block : String}
    (hName : context.lookup "enum_name" = some (.text name))
    (h : renderAll context enumTemplate = .ok block) :
    ∃ lead variants, WholeLines lead ∧ variantsPart.render context = .ok variants ∧
      block = lead ++ ("pub enum " ++ name ++ " \x7b\n" ++ variants ++ "\x7d\n") := by
  obtain ⟨comments, _, hDoc, hAfterDoc, rfl⟩ := renderAll_cons_ok h
  obtain ⟨derives, _, hDerives, hAfterDerives, rfl⟩ := renderAll_cons_ok hAfterDoc
  obtain ⟨_, hAtTag, rfl⟩ := renderAll_text_ok hAfterDerives
  obtain ⟨tag, _, -, hAfterTag, rfl⟩ := renderAll_cons_ok hAtTag
  obtain ⟨_, hOpening, rfl⟩ := renderAll_text_ok hAfterTag
  obtain ⟨_, hAtName, rfl⟩ := renderAll_text_ok hOpening
  obtain ⟨_, hAfterName, rfl⟩ := renderAll_named_ok hName hAtName
  obtain ⟨_, hVariants, rfl⟩ := renderAll_text_ok hAfterName
  obtain ⟨variants, _, hEach, hClosing, rfl⟩ := renderAll_cons_ok hVariants
  obtain ⟨_, hEnd, rfl⟩ := renderAll_text_ok hClosing
  rw [renderAll_nil_ok hEnd]
  refine ⟨comments ++ derives ++ ("#[serde(tag = " ++ tag ++ ")]\n"), variants,
    ((docComment_wholeLines hDoc).append (deriveLine_wholeLines hDerives)).append
      (wholeLines_closed _ ⟨")]", by decide⟩), hEach, ?_⟩
  simp [String.append_assoc, Value.display]

/-- What a filled enum looks like. -/
theorem enumTemplate_opens {context : Fields} {name block : String}
    (hName : context.lookup "enum_name" = some (.text name))
    (h : renderAll context enumTemplate = .ok block) : Opens "enum" name block := by
  obtain ⟨lead, variants, hLead, hVariants, rfl⟩ := enumTemplate_pieces hName h
  refine ⟨lead, variants, hLead, each_wholeLines hVariants rfl ⟨",", by decide⟩, ?_⟩
  rw [show "pub " ++ "enum" ++ " " = "pub enum " by decide]

/-- The comment that a definition leaves which is not declared. -/
def placeholderText (name kind : String) : String :=
  "/* " ++ String.ofList (blockSafe name.toList) ++ ": " ++ kind ++ " - not generated */\n"

theorem placeholderTemplate_text {context : Fields} {name kind block : String}
    (hName : context.lookup "name" = some (.text name))
    (hKind : context.lookup "kind" = some (.text kind))
    (h : renderAll context placeholderTemplate = .ok block) : block = placeholderText name kind := by
  obtain ⟨_, hAtName, rfl⟩ := renderAll_text_ok h
  obtain ⟨safeName, _, hSafe, hAfterName, rfl⟩ := renderAll_cons_ok hAtName
  obtain ⟨_, hAtKind, rfl⟩ := renderAll_text_ok hAfterName
  obtain ⟨_, hClosing, rfl⟩ := renderAll_named_ok hKind hAtKind
  obtain ⟨_, hEnd, rfl⟩ := renderAll_text_ok hClosing
  rw [renderAll_nil_ok hEnd]
  rw [Part.render, Expression.value, hName] at hSafe
  cases hSafe
  simp [placeholderText, String.append_assoc, Value.display]

/-- The head of a file that was generated from the document of an id. -/
def headText (id : String) (uses : List String) : String :=
  "// Code generated by lexgen from " ++ String.ofList (blockSafe id.toList) ++
    ". DO NOT EDIT.\n" ++ ("\n" ++ String.join (uses.map fun use => "use " ++ use ++ ";\n"))

/-- One line for each thing that is used. -/
theorem useLine_text {context : Fields} {use line : String}
    (h : renderAll (Fields.put "use" (.text use) context)
      [.text "use ", .emit (named "use"), .text ";\n"] = .ok line) :
    line = "use " ++ use ++ ";\n" := by
  have hUse : (Fields.put "use" (.text use) context).lookup "use" = some (.text use) :=
    Fields.lookup_put_self ..
  obtain ⟨_, hAtUse, rfl⟩ := renderAll_text_ok h
  obtain ⟨_, hAfterUse, rfl⟩ := renderAll_named_ok hUse hAtUse
  obtain ⟨_, hEnd, rfl⟩ := renderAll_text_ok hAfterUse
  rw [renderAll_nil_ok hEnd]
  simp [String.append_assoc, Value.display]

/-- The lines for all that is used. -/
theorem useEach_text {context : Fields} {uses : List String} {text : String}
    (hUses : context.lookup "uses" = some (.list (uses.map .text)))
    (h : (Part.each "use" (named "uses")
      [.text "use ", .emit (named "use"), .text ";\n"]).render context = .ok text) :
    text = String.join (uses.map fun use => "use " ++ use ++ ";\n") := by
  have hValue : (named "uses").value context = .ok (.list (uses.map .text)) := by
    rw [Expression.value, named, hUses]
    rfl
  exact each_text (fun use => "use " ++ use ++ ";\n") h hValue fun _ _ _ hLine =>
    useLine_text hLine

/-- What the head of a file looks like, if anything is used. -/
theorem preludeTemplate_text {context : Fields} {id block : String} {uses : List String}
    (hId : context.lookup "lexicon_id" = some (.text id))
    (hUses : context.lookup "uses" = some (.list (uses.map .text))) (hSome : uses ≠ [])
    (h : renderAll context preludeTemplate = .ok block) : block = headText id uses := by
  obtain ⟨_, hAtId, rfl⟩ := renderAll_text_ok h
  obtain ⟨safeId, _, hSafe, hAfterId, rfl⟩ := renderAll_cons_ok hAtId
  obtain ⟨_, hGiven, rfl⟩ := renderAll_text_ok hAfterId
  obtain ⟨lines, _, hLines, hEnd, rfl⟩ := renderAll_cons_ok hGiven
  rw [renderAll_nil_ok hEnd]
  rw [Part.render, Expression.value, hId] at hSafe
  cases hSafe
  have hOn : (Value.list (uses.map .text)).truthy = true := by
    cases uses with
    | nil => exact absurd rfl hSome
    | cons use rest => rfl
  rw [Part.render, Expression.value, named, hUses] at hLines
  obtain ⟨value, hValue, hLines⟩ := exists_of_bind_ok hLines
  cases hValue
  rw [if_pos hOn] at hLines
  obtain ⟨_, hBody, rfl⟩ := renderAll_text_ok hLines
  obtain ⟨_, _, hEach, hBodyEnd, rfl⟩ := renderAll_cons_ok hBody
  rw [renderAll_nil_ok hBodyEnd]
  rw [useEach_text hUses hEach]
  have hPieces : ∀ a b c d : String,
      a ++ (b ++ (c ++ ("\n" ++ (d ++ "") ++ ""))) = a ++ b ++ c ++ ("\n" ++ d) := by
    intro a b c d
    simp only [String.append_assoc, String.append_empty]
  have hShown : ∀ s : String, (Value.text s).display = s := by
    intro s
    rw [Value.display]
  rw [hShown, hShown]
  exact hPieces ..

-- ---------------------------------------------------------------------------
-- The built-in templates
-- ---------------------------------------------------------------------------

namespace Store

/-- A store that has the built-in templates and no text in place of one of them. -/
structure Original (store : Store) : Prop where
  hasFiles : store.hasFiles = true
  added : store.added = []

/-- A store to which nothing was added finds its files, and stays so. -/
theorem Original.find {store : Store} (h : store.Original) (name : String) :
    (store.find name).2.Original ∧
      ∀ parts, (store.find name).1 = .ok parts → store.file? name = some parts := by
  rw [Store.find, h.added]
  cases hFile : store.file? name with
  | none =>
    rw [ite_self]
    exact ⟨h, fun parts hParts => by cases hParts⟩
  | some found =>
    by_cases hFound : store.found.contains name = true
    · rw [if_pos hFound]
      exact ⟨h, fun parts hParts => by cases hParts; rfl⟩
    · rw [if_neg hFound]
      exact ⟨⟨h.hasFiles, rfl⟩, fun parts hParts => by cases hParts; rfl⟩

/-- What such a store fills is the file of the name. -/
theorem Original.render {store : Store} (h : store.Original) (name : String) (context : Fields) :
    (store.render name context).2.Original ∧
      ∀ text, (store.render name context).1 = .ok text →
        ∃ parts, store.file? name = some parts ∧ renderAll context parts = .ok text := by
  obtain ⟨hNext, hParts⟩ := h.find name
  rw [Store.render]
  split
  · rename_i parts next hFind
    rw [hFind] at hNext hParts
    exact ⟨hNext, fun text hText => ⟨parts, hParts parts rfl, hText⟩⟩
  · rename_i fault next hFind
    rw [hFind] at hNext
    exact ⟨hNext, fun text hText => by cases hText⟩

/-- What a store to which nothing was added finds: its file, if there is one. -/
theorem Original.find_fst {store : Store} (h : store.Original) (name : String) :
    (store.find name).1 =
      match store.file? name with
      | some parts => .ok parts
      | none => .error (.noTemplate name) := by
  rw [Store.find, h.added]
  cases hFile : store.file? name with
  | none => rw [ite_self]; rfl
  | some found =>
    by_cases hFound : store.found.contains name = true
    · rw [if_pos hFound]
    · rw [if_neg hFound]; rfl

/-- What is filled is what is found. -/
theorem render_fst_eq_bind (store : Store) (name : String) (context : Fields) :
    (store.render name context).1 = (store.find name).1.bind (renderAll context) := by
  rw [Store.render]
  split
  · rename_i hRun
    rw [hRun]
    rfl
  · rename_i hRun
    rw [hRun]
    rfl

/-- Which file has a name depends on whether there are any files. -/
theorem file?_congr {store other : Store} (h : store.hasFiles = other.hasFiles) (name : String) :
    store.file? name = other.file? name := by
  rw [file?, file?, h]

/-- What was found before makes no difference to a filled template. -/
theorem Original.render_eq {store other : Store} (h : store.Original) (h' : other.Original)
    (name : String) (context : Fields) :
    (store.render name context).1 = (other.render name context).1 := by
  rw [render_fst_eq_bind, render_fst_eq_bind, h.find_fst, h'.find_fst,
    file?_congr (h.hasFiles.trans h'.hasFiles.symm)]

theorem Original.file?_struct {store : Store} (h : store.Original) :
    store.file? structName = some structTemplate := by
  have hSegments : segments? structName = some [structName] := by decide
  rw [file?, if_pos h.hasFiles, hSegments]
  rfl

theorem Original.file?_enum {store : Store} (h : store.Original) :
    store.file? enumName = some enumTemplate := by
  have hSegments : segments? enumName = some [enumName] := by decide
  rw [file?, if_pos h.hasFiles, hSegments]
  rfl

theorem Original.file?_placeholder {store : Store} (h : store.Original) :
    store.file? placeholderName = some placeholderTemplate := by
  have hSegments : segments? placeholderName = some [placeholderName] := by decide
  rw [file?, if_pos h.hasFiles, hSegments]
  rfl

theorem Original.file?_prelude {store : Store} (h : store.Original) :
    store.file? preludeName = some preludeTemplate := by
  have hSegments : segments? preludeName = some [preludeName] := by decide
  rw [file?, if_pos h.hasFiles, hSegments]
  rfl

end Store

end Lexicon.Template
