import Lexicon.Proofs.Template.Fillable
import Lexicon.Proofs.Template.Filled
import Lexicon.Proofs.Text.Comments

/-!
# Lexicon — what a description adds to a filled template

A declaration is written with comments or without. Two contexts that differ in descriptions only
are compared here: a template is filled from both of them or from neither, and then the one text
is the other one with comments put in.

* `Agrees`, `renderAll_agrees` — a template reads nothing of its context but the values of its
                           expressions.
* `Commented`            — a text is another one with comments, whatever lines follow.
* `Alike`                — two computations fail alike, or return what is related.
* `docComment_alike`     — a doc comment before lines, and the same lines without it.
* `structTemplate_alike`, `enumTemplate_alike` — structs and enums with comments and without.
-/

namespace Lexicon.Template

open Lexicon.Text

-- ---------------------------------------------------------------------------
-- What templates read
-- ---------------------------------------------------------------------------

mutual

/-- The expressions of a piece that are evaluated in its context. In a part that is repeated, the
name of the item says nothing about the context. -/
def Part.expressions : Part → List Expression
  | .text _ => []
  | .emit e => [e]
  | .each name items body => items :: (expressionsOf body).filter (·.name != name)
  | .given condition body => condition :: expressionsOf body

/-- The expressions of a template that are evaluated in its context. -/
def expressionsOf : List Part → List Expression
  | [] => []
  | part :: rest => part.expressions ++ expressionsOf rest

end

/-- `Agrees expressions context other`: the expressions have the same values in both contexts. -/
def Agrees (expressions : List Expression) (context other : Fields) : Prop :=
  ∀ e ∈ expressions, e.value other = e.value context

theorem value_congr {e : Expression} {context other : Fields}
    (h : other.lookup e.name = context.lookup e.name) : e.value other = e.value context := by
  rw [Expression.value, Expression.value, h]

/-- An item that is put into both contexts has the same value in both. -/
theorem Agrees.put {expressions : List Expression} {name : String} {context other : Fields}
    (h : Agrees (expressions.filter (·.name != name)) context other) (value : Value) :
    Agrees expressions (Fields.put name value context) (Fields.put name value other) := by
  intro e he
  by_cases hName : e.name = name
  · refine value_congr ?_
    rw [hName, Fields.lookup_put_self, Fields.lookup_put_self]
  · have hAside : ∀ fields : Fields, e.value (Fields.put name value fields) = e.value fields :=
      fun fields => value_congr (Fields.lookup_put_of_ne (Ne.symm hName) ..)
    rw [hAside, hAside]
    exact h e (List.mem_filter.mpr ⟨he, by simpa using hName⟩)

mutual

/-- A piece reads nothing of its context but the values of its expressions. -/
theorem render_agrees : ∀ (part : Part) {context other : Fields},
    Agrees part.expressions context other → part.render other = part.render context
  | .text s, _, _, _ => by rw [Part.render, Part.render]
  | .emit e, context, other, h => by
    rw [Part.render, Part.render, h e (by simp [Part.expressions])]
  | .each name items body, context, other, h => by
    have hItems := h items (by simp [Part.expressions])
    have hBody : ∀ value, renderAll (Fields.put name value other) body =
        renderAll (Fields.put name value context) body := fun value =>
      renderAll_agrees body (Agrees.put (fun e he => h e (by simp [Part.expressions, he])) value)
    rw [Part.render, Part.render, hItems]
    simp only [hBody]
  | .given condition body, context, other, h => by
    have hCondition := h condition (by simp [Part.expressions])
    have hBody := renderAll_agrees body fun e he => h e (by simp [Part.expressions, he])
    rw [Part.render, Part.render, hCondition, hBody]

/-- **Neither does a template.** -/
theorem renderAll_agrees : ∀ (parts : List Part) {context other : Fields},
    Agrees (expressionsOf parts) context other → renderAll other parts = renderAll context parts
  | [], _, _, _ => by rw [renderAll, renderAll]
  | part :: rest, context, other, h => by
    have hPart := render_agrees part fun e he => h e (by simp [expressionsOf, he])
    have hRest := renderAll_agrees rest fun e he => h e (by simp [expressionsOf, he])
    rw [renderAll, renderAll, hPart, hRest]

end

/-- A template is filled in two steps as well. -/
theorem renderAll_append (context : Fields) (parts rest : List Part) :
    renderAll context (parts ++ rest) = renderAll context parts >>= fun text =>
      renderAll context rest >>= fun others => pure (text ++ others) := by
  induction parts with
  | nil =>
    rw [List.nil_append, renderAll, ok_bind]
    simp only [String.empty_append]
    cases renderAll context rest <;> rfl
  | cons part others ih =>
    rw [List.cons_append, renderAll, renderAll, ih]
    cases part.render context with
    | error fault => rfl
    | ok first =>
      rw [ok_bind, ok_bind]
      cases renderAll context others with
      | error fault => rfl
      | ok second =>
        rw [ok_bind, ok_bind]
        cases renderAll context rest with
        | error fault => rfl
        | ok third => exact congrArg Except.ok (String.append_assoc ..).symm

-- ---------------------------------------------------------------------------
-- Texts with comments
-- ---------------------------------------------------------------------------

/-- The first line of the text is not blank. -/
def BeginsSolid (text : String) : Prop :=
  ∃ blanks c rest, '\n' ∉ blanks ∧ isBlank c = false ∧ text.toList = blanks ++ c :: rest

theorem BeginsSolid.append {text : String} (h : BeginsSolid text) (later : String) :
    BeginsSolid (text ++ later) := by
  obtain ⟨blanks, c, rest, hBlanks, hSolid, hText⟩ := h
  exact ⟨blanks, c, rest ++ later.toList, hBlanks, hSolid, by simp [hText]⟩

/-- `Commented full kept`: whatever lines follow, with comments among them or not, the full text
before them is the kept one with comments put in. -/
def Commented (full kept : String) : Prop :=
  ∀ after later : List Char, Annotated (split '\n' after) (split '\n' later) →
    Annotated (split '\n' (full.toList ++ after)) (split '\n' (kept.toList ++ later))

/-- Whole lines may be the same in both texts. -/
theorem WholeLines.commented {text : String} (h : WholeLines text) : Commented text text := by
  intro after later hLater
  rcases h with rfl | ⟨lines, rfl⟩
  · exact hLater
  · have hEnd : ∀ rest : List Char,
        (lines ++ "\n").toList ++ rest = lines.toList ++ '\n' :: rest := by simp
    rw [hEnd, hEnd, split_append, split_append]
    exact (Annotated.refl _).append hLater

theorem Commented.append {full kept next last : String} (h : Commented full kept)
    (hNext : Commented next last) : Commented (full ++ next) (kept ++ last) := by
  intro after later hLater
  rw [String.toList_append, String.toList_append, List.append_assoc, List.append_assoc]
  exact h _ _ (hNext _ _ hLater)

theorem Commented.join {fulls kepts : List String} (h : List.Forall₂ Commented fulls kepts) :
    Commented (String.join fulls) (String.join kepts) := by
  induction h with
  | nil => exact WholeLines.commented (.inl rfl)
  | cons hFirst _ ih =>
    rw [String.join_cons, String.join_cons]
    exact hFirst.append ih

/-- Texts that are joined by line feeds may each have comments. -/
theorem Commented.intercalate {fulls kepts : List String} (h : List.Forall₂ Commented fulls kepts) :
    Commented ("\n".intercalate fulls) ("\n".intercalate kepts) := by
  have hFeed : Commented "\n" "\n" := WholeLines.commented (.inr ⟨"", rfl⟩)
  induction h with
  | nil => exact WholeLines.commented (.inl rfl)
  | cons hFirst hRest ih =>
    cases hRest with
    | nil => simpa using hFirst
    | cons hSecond hLater =>
      rw [String.intercalate_cons_cons, String.intercalate_cons_cons]
      exact (hFirst.append hFeed).append ih

/-- A comment may be put before a text whose first line is not blank. -/
theorem Commented.note {comment full kept : String} (hComment : IsComment comment.toList)
    (hLine : '\n' ∉ comment.toList) (hSolid : BeginsSolid kept) (h : Commented full kept) :
    Commented (comment ++ "\n" ++ full) kept := by
  intro after later hLater
  obtain ⟨blanks, c, rest, hBlanks, hOther, hKept⟩ := hSolid.append (String.ofList later)
  rw [String.toList_append, String.toList_ofList] at hKept
  obtain ⟨first, others, hSplit, hFirst⟩ := exists_solid_split hBlanks hOther rest
  have hRest := h after later hLater
  have hText : (comment ++ "\n" ++ full).toList ++ after =
      comment.toList ++ '\n' :: (full.toList ++ after) := by simp
  rw [hText, split_append, split_of_not_mem hLine]
  rw [hKept, hSplit] at hRest ⊢
  exact .note hComment hFirst hRest

/-- The lines of one text are those of the other with comments put in. -/
theorem Commented.annotated {full kept : String} (h : Commented full kept) :
    Annotated (split '\n' full.toList) (split '\n' kept.toList) := by
  have hLines := h [] [] (.refl _)
  rwa [List.append_nil, List.append_nil] at hLines

-- ---------------------------------------------------------------------------
-- Two computations
-- ---------------------------------------------------------------------------

/-- Both computations fail alike, or what they return is related. -/
inductive Alike {ε α β : Type} (R : α → β → Prop) : Except ε α → Except ε β → Prop
  | ok {a : α} {b : β} (h : R a b) : Alike R (.ok a) (.ok b)
  | error (e : ε) : Alike R (.error e) (.error e)

section Alike

variable {ε α β γ δ : Type} {R : α → β → Prop} {S : γ → δ → Prop}

theorem Alike.bind {x : Except ε α} {y : Except ε β} {f : α → Except ε γ} {g : β → Except ε δ}
    (h : Alike R x y) (hNext : ∀ a b, R a b → Alike S (f a) (g b)) :
    Alike S (x >>= f) (y >>= g) := by
  cases h with
  | ok h => exact hNext _ _ h
  | error e => exact .error e

theorem Alike.map {x : Except ε α} {y : Except ε β} {f : α → γ} {g : β → δ} (h : Alike R x y)
    (hNext : ∀ a b, R a b → S (f a) (g b)) : Alike S (x.map f) (y.map g) := by
  cases h with
  | ok h => exact .ok (hNext _ _ h)
  | error e => exact .error e

theorem Alike.mapError {ε' : Type} {x : Except ε α} {y : Except ε β} (h : Alike R x y)
    (f : ε → ε') : Alike R (x.mapError f) (y.mapError f) := by
  cases h with
  | ok h => exact .ok h
  | error e => exact .error (f e)

/-- What is returned may be known to be returned. -/
theorem Alike.refl {R : α → α → Prop} {x : Except ε α} (h : ∀ a, x = .ok a → R a a) :
    Alike R x x := by
  cases x with
  | error e => exact .error e
  | ok a => exact .ok (h a rfl)

theorem Alike.mapM {f : α → Except ε γ} {g : β → Except ε δ} {items : List α} {others : List β}
    (hItems : List.Forall₂ R items others) (h : ∀ a b, R a b → Alike S (f a) (g b)) :
    Alike (List.Forall₂ S) (items.mapM f) (others.mapM g) := by
  induction hItems with
  | nil => exact .ok .nil
  | cons hFirst _ ih =>
    rw [List.mapM_cons, List.mapM_cons]
    exact (h _ _ hFirst).bind fun _ _ hText => ih.bind fun _ _ hTexts => .ok (.cons hText hTexts)

end Alike

section Pieces

variable {context other : Fields}

/-- Texts put together are alike if their pieces are. -/
theorem append_alike {x y x' y' : Except Fault String} (h : Alike Commented x y)
    (hNext : Alike Commented x' y') :
    Alike Commented (x >>= fun text => x' >>= fun others => pure (text ++ others))
      (y >>= fun text => y' >>= fun others => pure (text ++ others)) :=
  h.bind fun _ _ hText => hNext.bind fun _ _ hOthers => .ok (hText.append hOthers)

theorem renderAll_cons_alike {part : Part} {rest : List Part}
    (hPart : Alike Commented (part.render context) (part.render other))
    (hRest : Alike Commented (renderAll context rest) (renderAll other rest)) :
    Alike Commented (renderAll context (part :: rest)) (renderAll other (part :: rest)) := by
  rw [renderAll, renderAll]
  exact append_alike hPart hRest

theorem renderAll_append_alike {parts rest : List Part}
    (hParts : Alike Commented (renderAll context parts) (renderAll other parts))
    (hRest : Alike Commented (renderAll context rest) (renderAll other rest)) :
    Alike Commented (renderAll context (parts ++ rest)) (renderAll other (parts ++ rest)) := by
  rw [renderAll_append, renderAll_append]
  exact append_alike hParts hRest

/-- A template that is one text, of whole lines. -/
theorem renderAll_text_alike {s : String} (hWhole : WholeLines s) :
    Alike Commented (renderAll context [.text s]) (renderAll other [.text s]) := by
  have hText : ∀ fields : Fields, renderAll fields [.text s] = .ok s := by
    intro fields
    rw [renderAll, renderAll, Part.render]
    exact congrArg Except.ok String.append_empty
  rw [hText, hText]
  exact .ok hWhole.commented

end Pieces

-- ---------------------------------------------------------------------------
-- Comments
-- ---------------------------------------------------------------------------

/-- A comment line of a description. -/
theorem docLine_isComment {indent : String}
    (hIndent : ∀ c ∈ indent.toList, isBlank c = true ∧ c ≠ '\n') {line : List Char}
    (hLine : '\n' ∉ line) :
    IsComment (indent ++ "/// " ++ String.ofList line).toList ∧
      '\n' ∉ (indent ++ "/// " ++ String.ofList line).toList := by
  have hText : (indent ++ "/// " ++ String.ofList line).toList =
      indent.toList ++ '/' :: '/' :: '/' :: ' ' :: line := by simp
  rw [hText]
  refine ⟨⟨indent.toList, ' ' :: line, fun c hc => (hIndent c hc).1, rfl⟩, ?_⟩
  have hFree : '\n' ∉ indent.toList := fun h => (hIndent _ h).2 rfl
  simpa using ⟨hFree, hLine⟩

/-- Comment lines may be put before whole lines of which the first is not blank. -/
theorem commented_docLines {indent : String}
    (hIndent : ∀ c ∈ indent.toList, isBlank c = true ∧ c ≠ '\n') {lines : List (List Char)}
    (hLines : ∀ line ∈ lines, '\n' ∉ line) {text : String} (hWhole : WholeLines text)
    (hSolid : BeginsSolid text) :
    Commented (String.join (lines.map fun line =>
      indent ++ "/// " ++ String.ofList line ++ "\n") ++ text) text := by
  induction lines with
  | nil => simpa using hWhole.commented
  | cons line rest ih =>
    obtain ⟨hComment, hFree⟩ := docLine_isComment hIndent (hLines line (List.mem_cons_self ..))
    have hRest := ih fun later hLater => hLines later (List.mem_cons_of_mem _ hLater)
    have hNote := Commented.note hComment hFree hSolid hRest
    rwa [List.map_cons, String.join_cons, String.append_assoc]

/-- The lines of a comment for a description, which may be none. -/
def commentLines (description : Value) : List (List Char) :=
  if description.truthy then Text.docLines description.display.toList else []

theorem commentLines_free (description : Value) :
    ∀ line ∈ commentLines description, '\n' ∉ line := by
  rw [commentLines]
  split
  · exact fun line => not_mem_of_mem_docLines line
  · simp

/-- What is written for the lines of a description. -/
theorem docComment_render {context : Fields} {e : Expression} {description : Value}
    {parts : List Part} {indent : String} (hFilters : e.filters = [])
    (hDescription : e.value context = .ok description)
    (hIndent : ∀ line, renderAll (Fields.put "line" line context) parts = .ok indent) :
    (docComment e parts).render context = .ok (String.join ((commentLines description).map
      fun line => indent ++ "/// " ++ String.ofList line ++ "\n")) := by
  have hLines : Filter.docLines.apply description =
      .ok (.list ((commentLines description).map fun line => .text (String.ofList line))) := by
    rw [Filter.apply, commentLines]
    split
    · rfl
    · rfl
  have hLine : ∀ line : List Char,
      renderAll (Fields.put "line" (.text (String.ofList line)) context)
        (parts ++ [.text "/// ", .emit (named "line"), .text "\n"]) =
      .ok (indent ++ "/// " ++ String.ofList line ++ "\n") := by
    intro line
    have hFound : (Fields.put "line" (.text (String.ofList line)) context).lookup "line" =
        some (.text (String.ofList line)) := Fields.lookup_put_self ..
    have hShown : (Value.text (String.ofList line)).display = String.ofList line := by
      rw [Value.display]
    rw [renderAll_append, hIndent, ok_bind]
    simp only [renderAll, Part.render, value_named hFound]
    exact congrArg Except.ok (by simp [String.append_assoc, hShown])
  have hTexts : ((commentLines description).map fun line => Value.text (String.ofList line)).mapM
      (fun value => renderAll (Fields.put "line" value context)
        (parts ++ [.text "/// ", .emit (named "line"), .text "\n"])) =
      .ok ((commentLines description).map fun line =>
        indent ++ "/// " ++ String.ofList line ++ "\n") := by
    refine mapM_of_forall₂ ?_
    rw [List.forall₂_map_left_iff, List.forall₂_map_right_iff, List.forall₂_same]
    exact fun line _ => hLine line
  have hValue := (value_filtered .docLines hFilters hDescription).trans hLines
  rw [docComment, Part.render, hValue, ok_bind, itemsOf, ok_bind, hTexts]
  rfl

/-- **A comment before lines**, and the same lines without it. -/
theorem docComment_alike {context other : Fields} {e : Expression} {description : Value}
    {parts core : List Part} {indent : String} (hFilters : e.filters = [])
    (hDescription : e.value context = .ok description) (hNone : e.value other = .ok .null)
    (hBlank : ∀ c ∈ indent.toList, isBlank c = true ∧ c ≠ '\n')
    (hIndent : ∀ line, renderAll (Fields.put "line" line context) parts = .ok indent)
    (hOther : ∀ line, renderAll (Fields.put "line" line other) parts = .ok indent)
    (hCore : renderAll other core = renderAll context core)
    (hLines : ∀ text, renderAll context core = .ok text → WholeLines text ∧ BeginsSolid text) :
    Alike Commented (renderAll context (docComment e parts :: core))
      (renderAll other (docComment e parts :: core)) := by
  rw [renderAll, renderAll, docComment_render hFilters hDescription hIndent,
    docComment_render hFilters hNone hOther, hCore, ok_bind, ok_bind]
  cases hRun : renderAll context core with
  | error fault => exact .error fault
  | ok text =>
    obtain ⟨hWhole, hSolid⟩ := hLines text hRun
    have hEmpty : String.join ((commentLines .null).map fun line =>
        indent ++ "/// " ++ String.ofList line ++ "\n") = "" := rfl
    rw [ok_bind, ok_bind, hEmpty, String.empty_append]
    exact .ok (commented_docLines hBlank (commentLines_free description) hWhole hSolid)

-- ---------------------------------------------------------------------------
-- Lines that are not blank
-- ---------------------------------------------------------------------------

/-- A text that begins with a character that is not blank. -/
theorem beginsSolid_of_head? {text : String} {c : Char} (hText : text.toList.head? = some c)
    (hSolid : isBlank c = false) : BeginsSolid text := by
  obtain ⟨rest, hCons⟩ := List.head?_eq_some_iff.mp hText
  exact ⟨[], c, rest, List.not_mem_nil, hSolid, hCons⟩

/-- An indented text that is not blank. -/
theorem BeginsSolid.indented {indent text : String}
    (hIndent : ∀ c ∈ indent.toList, isBlank c = true ∧ c ≠ '\n') (h : BeginsSolid text) :
    BeginsSolid (indent ++ text) := by
  obtain ⟨blanks, c, rest, hBlanks, hSolid, hText⟩ := h
  refine ⟨indent.toList ++ blanks, c, rest, ?_, hSolid, by simp [hText]⟩
  have hFree : '\n' ∉ indent.toList := fun hMem => (hIndent _ hMem).2 rfl
  simpa using ⟨hFree, hBlanks⟩

/-- A line that lists what is derived is not blank, if there is one. -/
theorem deriveLine_beginsSolid {context : Fields} {text : String}
    (h : deriveLine.render context = .ok text) : text = "" ∨ BeginsSolid text := by
  rw [deriveLine, Part.render] at h
  obtain ⟨value, -, h⟩ := exists_of_bind_ok h
  split at h
  · obtain ⟨others, -, rfl⟩ := renderAll_text_ok h
    refine .inr (beginsSolid_of_head? (c := '#') ?_ (by decide))
    simp
  · cases h
    exact .inl rfl

/-- What follows the line of what is derived need not be told apart from it. -/
theorem deriveLine_head {context : Fields} {s text : String} {rest : List Part} {c : Char}
    (hText : s.toList.head? = some c) (hSolid : isBlank c = false)
    (h : renderAll context (deriveLine :: .text s :: rest) = .ok text) : BeginsSolid text := by
  obtain ⟨derives, _, hDerives, hRest, rfl⟩ := renderAll_cons_ok h
  obtain ⟨others, -, rfl⟩ := renderAll_text_ok hRest
  have hOthers : BeginsSolid (s ++ others) :=
    (beginsSolid_of_head? hText hSolid).append others
  rcases deriveLine_beginsSolid hDerives with rfl | hLine
  · rwa [String.empty_append]
  · exact hLine.append _

/-- The attribute lines of an owner are not blank, if there are any. -/
theorem attributeLines_beginsSolid {context entries : Fields} {owner indent text : String}
    {attributes : List String} (hIndent : ∀ c ∈ indent.toList, isBlank c = true ∧ c ≠ '\n')
    (hOwner : context.lookup owner = some (.mapping entries))
    (hAttributes : entries.lookup "attributes" = some (.list (attributes.map .text)))
    (hBefore : context.lookup "indent" = some (.text indent))
    (hMarks : ∀ a ∈ attributes, a.toList.head? = some '#')
    (h : (attributeLines owner).render context = .ok text) : text = "" ∨ BeginsSolid text := by
  rw [attributeLines, Part.render, value_member hOwner hAttributes, ok_bind, itemsOf, ok_bind] at h
  obtain ⟨texts, hTexts, h⟩ := exists_of_bind_ok h
  cases h
  cases attributes with
  | nil =>
    cases hTexts
    exact .inl rfl
  | cons a others =>
    rw [List.map_cons, List.mapM_cons] at hTexts
    obtain ⟨first, hFirst, hTexts⟩ := exists_of_bind_ok hTexts
    obtain ⟨more, -, hTexts⟩ := exists_of_bind_ok hTexts
    cases hTexts
    have hLine : (Fields.put "attribute" (.text a) context).lookup "attribute" = some (.text a) :=
      Fields.lookup_put_self ..
    have hBlanks : (Fields.put "attribute" (.text a) context).lookup "indent" =
        some (.text indent) := (Fields.lookup_put_of_ne (by decide) ..).trans hBefore
    obtain ⟨_, hAfter, rfl⟩ := renderAll_named_ok hBlanks hFirst
    obtain ⟨_, -, rfl⟩ := renderAll_named_ok hLine hAfter
    have hMark : BeginsSolid a :=
      beginsSolid_of_head? (hMarks a (List.mem_cons_self ..)) (by decide)
    rw [String.join_cons, Value.display, Value.display]
    exact .inr ((hMark.append _).indented hIndent |>.append _)

-- ---------------------------------------------------------------------------
-- Fields
-- ---------------------------------------------------------------------------

/-- `Mutes value other`: two fields that say the same, but for a description that the second one
has not. -/
inductive Mutes : Value → Value → Prop
  | field {entries others : Fields} {attributes : List String} {description : Value}
      (hAttributes : entries.lookup "attributes" = some (.list (attributes.map .text)))
      (hMarks : ∀ a ∈ attributes, a.toList.head? = some '#')
      (hDescription : entries.lookup "description" = some description)
      (hNone : others.lookup "description" = some .null)
      (hSame : ∀ key, key ≠ "description" → others.lookup key = entries.lookup key) :
      Mutes (.mapping entries) (.mapping others)

/-- What is written for a field behind its comment. -/
def fieldLines : List Part :=
  [attributeLines "field", .emit (named "indent"), .text "pub ", .emit (member "field" "name"),
   .text ": ", .emit (member "field" "type"), .text ",\n"]

/-- The value of an attribute is looked up in the owner. -/
theorem member_value {context : Fields} {owner key : String} {value : Value}
    (h : context.lookup owner = some value) :
    (member owner key).value context = attributeOf value key := by
  rw [Expression.value, member, h]
  show ([key].foldlM attributeOf value >>= fun inner => [].foldlM _ inner) = _
  rw [List.foldlM_cons]
  cases attributeOf value key <;> rfl

/-- An attribute that two owners share has one value. -/
theorem member_congr {context other entries others : Fields} {owner key : String}
    (hSame : others.lookup key = entries.lookup key) :
    (member owner key).value (Fields.put owner (.mapping others) other) =
      (member owner key).value (Fields.put owner (.mapping entries) context) := by
  rw [member_value (Fields.lookup_put_self ..), member_value (Fields.lookup_put_self ..),
    attributeOf, attributeOf, hSame]
  rfl

/-- The indentation before a line. -/
theorem renderAll_indent {context : Fields} {indent : String}
    (h : context.lookup "indent" = some (.text indent)) :
    renderAll context [.emit (named "indent")] = .ok indent := by
  rw [renderAll, renderAll, Part.render, value_named h]
  exact congrArg Except.ok (by rw [Value.display, String.append_empty])

section Fields

variable {context other : Fields} {indent : String}
  (hIndent : context.lookup "indent" = some (.text indent))
  (hOther : other.lookup "indent" = some (.text indent))
  (hBlank : ∀ c ∈ indent.toList, isBlank c = true ∧ c ≠ '\n')

include hIndent hOther hBlank

/-- **A field with its comment** and the same field without. -/
theorem field_alike {value muted : Value} (h : Mutes value muted) :
    Alike Commented
      (renderAll (Fields.put "field" value context)
        (docComment (member "field" "description") [.emit (named "indent")] :: fieldLines))
      (renderAll (Fields.put "field" muted other)
        (docComment (member "field" "description") [.emit (named "indent")] :: fieldLines)) := by
  obtain ⟨hAttributes, hMarks, hDescription, hNone, hSame⟩ := h
  rename_i entries others attributes description
  have hOwner := Fields.lookup_put_self "field" (.mapping entries) context
  have hMuted := Fields.lookup_put_self "field" (.mapping others) other
  have hBefore : (Fields.put "field" (.mapping entries) context).lookup "indent" =
      some (.text indent) := (Fields.lookup_put_of_ne (by decide) ..).trans hIndent
  have hBeside : (Fields.put "field" (.mapping others) other).lookup "indent" =
      some (.text indent) := (Fields.lookup_put_of_ne (by decide) ..).trans hOther
  refine docComment_alike rfl (value_member hOwner hDescription) (value_member hMuted hNone) hBlank
    (fun _ => renderAll_indent ((Fields.lookup_put_of_ne (by decide) ..).trans hBefore))
    (fun _ => renderAll_indent ((Fields.lookup_put_of_ne (by decide) ..).trans hBeside)) ?_ ?_
  · -- the lines behind the comment read nothing of the description
    refine renderAll_agrees fieldLines ?_
    have hNames : expressionsOf fieldLines = [member "field" "attributes", named "indent",
        named "indent", member "field" "name", member "field" "type"] := by rfl
    have hIndented := (value_named hBeside).trans (value_named hBefore).symm
    rw [hNames]
    simp only [Agrees, List.forall_mem_cons]
    exact ⟨member_congr (hSame _ (by decide)), hIndented, hIndented,
      member_congr (hSame _ (by decide)), member_congr (hSame _ (by decide)), by simp⟩
  · intro text hText
    refine ⟨renderAll_wholeLines hText rfl ⟨",", by decide⟩, ?_⟩
    obtain ⟨marks, _, hLines, hAfter, rfl⟩ := renderAll_cons_ok hText
    obtain ⟨_, hPub, rfl⟩ := renderAll_named_ok hBefore hAfter
    obtain ⟨_, -, rfl⟩ := renderAll_text_ok hPub
    have hWord : BeginsSolid ("pub " : String) :=
      beginsSolid_of_head? (c := 'p') (by decide) (by decide)
    rcases attributeLines_beginsSolid hBlank hOwner hAttributes hBefore hMarks hLines with
      rfl | hSolid
    · rw [String.empty_append, Value.display]
      exact (hWord.append _).indented hBlank
    · exact hSolid.append _

/-- **The fields of a struct** with their comments and without. -/
theorem fields_alike {values muted : List Value}
    (hFields : context.lookup "fields" = some (.list values))
    (hMuted : other.lookup "fields" = some (.list muted))
    (h : List.Forall₂ Mutes values muted) :
    Alike Commented
      ((Part.each "field" (named "fields")
        (docComment (member "field" "description") [.emit (named "indent")] :: fieldLines)).render
        context)
      ((Part.each "field" (named "fields")
        (docComment (member "field" "description") [.emit (named "indent")] :: fieldLines)).render
        other) := by
  rw [Part.render, Part.render, value_named hFields, value_named hMuted, ok_bind, ok_bind, itemsOf,
    itemsOf, ok_bind, ok_bind]
  exact (Alike.mapM h fun _ _ hField => field_alike hIndent hOther hBlank hField).bind
    fun _ _ hTexts => .ok (.join hTexts)

end Fields

-- ---------------------------------------------------------------------------
-- Declarations
-- ---------------------------------------------------------------------------

section Declarations

variable {context other : Fields} {description : Value}
  (hDescription : context.lookup "description" = some description)
  (hNone : other.lookup "description" = some .null)

include hDescription hNone

/-- The lines of a declaration with its comment and without, where they read nothing of the
description and do not begin with a blank one. -/
theorem declaration_alike {core : List Part} (hCore : renderAll other core = renderAll context core)
    (hLines : ∀ text, renderAll context core = .ok text → WholeLines text ∧ BeginsSolid text) :
    Alike Commented (renderAll context (docComment (named "description") [] :: core))
      (renderAll other (docComment (named "description") [] :: core)) := by
  have hNothing : ∀ fields : Fields, renderAll fields [] = .ok "" := fun fields => by rw [renderAll]
  exact docComment_alike rfl (value_named hDescription) (value_named hNone) (by simp)
    (fun line => hNothing _) (fun line => hNothing _) hCore hLines

/-- **A struct with comments** and the same struct without. -/
theorem structTemplate_alike {indent : String} {values muted : List Value}
    (hSame : ∀ key ∈ ["struct_name", "derives"], other.lookup key = context.lookup key)
    (hIndent : context.lookup "indent" = some (.text indent))
    (hOther : other.lookup "indent" = some (.text indent))
    (hBlank : ∀ c ∈ indent.toList, isBlank c = true ∧ c ≠ '\n')
    (hFields : context.lookup "fields" = some (.list values))
    (hMuted : other.lookup "fields" = some (.list muted))
    (h : List.Forall₂ Mutes values muted) :
    Alike Commented (renderAll context structTemplate) (renderAll other structTemplate) := by
  let head : List Part :=
    [deriveLine, .text "pub struct ", .emit (named "struct_name"), .text " \x7b\n"]
  have hTemplate : structTemplate = (docComment (named "description") [] :: head) ++
      [.each "field" (named "fields")
        (docComment (member "field" "description") [.emit (named "indent")] :: fieldLines),
       .text "\x7d\n"] := rfl
  have hHead : renderAll other head = renderAll context head := by
    refine renderAll_agrees head fun e he => value_congr (hSame e.name ?_)
    revert e
    decide
  have hLines : ∀ text, renderAll context head = .ok text → WholeLines text ∧ BeginsSolid text :=
    fun text hText => ⟨renderAll_wholeLines hText rfl ⟨" \x7b", by decide⟩,
      deriveLine_head (c := 'p') (by decide) (by decide) hText⟩
  rw [hTemplate]
  refine renderAll_append_alike (declaration_alike hDescription hNone hHead hLines) ?_
  exact renderAll_cons_alike (fields_alike hIndent hOther hBlank hFields hMuted h)
    (renderAll_text_alike (.inr ⟨"\x7d", by decide⟩))

/-- **An enum with comments** and the same enum without: variants have no descriptions. -/
theorem enumTemplate_alike
    (hSame : ∀ key ∈ ["derives", "tag", "enum_name", "variants", "indent"],
      other.lookup key = context.lookup key) :
    Alike Commented (renderAll context enumTemplate) (renderAll other enumTemplate) := by
  refine declaration_alike hDescription hNone ?_ fun text hText => ⟨?_, ?_⟩
  · refine renderAll_agrees _ fun e he => value_congr (hSame e.name ?_)
    revert e
    decide
  · exact renderAll_wholeLines hText rfl ⟨"\x7d", by decide⟩
  · exact deriveLine_head (c := '#') (by decide) (by decide) hText

end Declarations

/-- The head of a file has no comments on declarations; it is made of whole lines. -/
theorem headText_wholeLines (id : String) (uses : List String) : WholeLines (headText id uses) := by
  have hUses : WholeLines (String.join (uses.map fun use => "use " ++ use ++ ";\n")) := by
    refine .join fun line hLine => ?_
    obtain ⟨use, -, rfl⟩ := List.mem_map.mp hLine
    exact wholeLines_closed _ ⟨";", by decide⟩
  have hBlank : WholeLines "\n" := .inr ⟨"", rfl⟩
  exact (wholeLines_closed _ ⟨". DO NOT EDIT.", by decide⟩).append (hBlank.append hUses)

end Lexicon.Template
