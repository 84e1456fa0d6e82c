import Lexicon.Proofs.Schema.Grammar

/-!
# Lexicon — what the decoder accepts

The decoder reads the fields of a node one after the other, descends into those that hold nodes,
and stops at the first that does not have its form. Here it is shown that what it accepts is the
grammar, kind by kind, and by induction on how deeply values are nested.

* `Settled`          — a value is decoded exactly if it is a node, as a node of its kind.
* `decodeField_eq`, `decodeProperties_eq`, `decodeBody_eq`, `decodeMessage_eq` — the fields that
                       hold nodes, looked up as all others are.
* `decodes_kind`     — one kind after the other.
* `settled`          — every value is settled.
* `decoder_accepts_grammar` — the decoder accepts exactly what the grammar describes.
-/

namespace Lexicon.Schema

-- ---------------------------------------------------------------------------
-- Looking fields up
-- ---------------------------------------------------------------------------

theorem present?_cons (k key : String) (v : Value) (rest : Fields) :
    Fields.present? ((k, v) :: rest) key =
      if k = key then (match v with | .null => none | v => some v) else rest.present? key := by
  rw [Fields.present?, Fields.present?, List.lookup_cons]
  by_cases h : key = k
  · subst h
    rw [beq_self_eq_true, if_pos rfl]
    cases v <;> rfl
  · have hKey : (key == k) = false := beq_eq_false_iff_ne.mpr h
    rw [hKey, if_neg (Ne.symm h)]

/-- A field that is present is smaller than the mapping that it is found in. -/
theorem sizeOf_present {fields : Fields} {key : String} {v : Value}
    (h : fields.present? key = some v) : sizeOf v < sizeOf fields := by
  induction fields with
  | nil => cases h
  | cons e rest ih =>
    obtain ⟨k, value⟩ := e
    rw [present?_cons] at h
    have hEntry : sizeOf ((k, value) :: rest) = 1 + (1 + sizeOf k + sizeOf value) + sizeOf rest := rfl
    split at h
    · have hSame : value = v := by
        cases value <;> cases h <;> rfl
      subst hSame
      omega
    · have hLess := ih h
      omega

theorem decodeField_eq (key : String) (path : Path) (fields : Fields) :
    decodeField key path fields =
      match fields.present? key with
      | none => .ok none
      | some v => some <$> Node.decode (path.child key) v := by
  induction fields with
  | nil => rfl
  | cons e rest ih =>
    obtain ⟨k, value⟩ := e
    unfold decodeField
    rw [present?_cons]
    split
    · cases value <;> rfl
    · exact ih

theorem decodeProperties_eq (key : String) (path : Path) (fields : Fields) :
    decodeProperties key path fields =
      match fields.present? key with
      | none => .ok []
      | some (.mapping entries) => decodeEntries (path.child key) entries
      | some v => failAt (path.child key) (.unexpected .object (shapeName v)) := by
  induction fields with
  | nil => rfl
  | cons e rest ih =>
    obtain ⟨k, value⟩ := e
    unfold decodeProperties
    rw [present?_cons]
    split
    · cases value <;> rfl
    · exact ih

theorem decodeBody_eq (key : String) (path : Path) (fields : Fields) :
    decodeBody key path fields =
      match fields.present? key with
      | none => .ok none
      | some (.mapping inner) => do
        let encoding ← Reader.string.required inner "encoding" (path.child key)
        let schema ← decodeField "schema" (path.child key) inner
        let description ← Reader.string.optional inner "description" (path.child key)
        return some { encoding, schema, description }
      | some v => failAt (path.child key) (.unexpected .object (shapeName v)) := by
  induction fields with
  | nil => rfl
  | cons e rest ih =>
    obtain ⟨k, value⟩ := e
    unfold decodeBody
    rw [present?_cons]
    split
    · cases value <;> rfl
    · exact ih

theorem decodeMessage_eq (key : String) (path : Path) (fields : Fields) :
    decodeMessage key path fields =
      match fields.present? key with
      | none => .ok none
      | some (.mapping inner) => do
        match ← decodeField "schema" (path.child key) inner with
        | none => failAt (path.child key) (.missing "schema")
        | some schema =>
          let description ← Reader.string.optional inner "description" (path.child key)
          return some { schema, description }
      | some v => failAt (path.child key) (.unexpected .object (shapeName v)) := by
  induction fields with
  | nil => rfl
  | cons e rest ih =>
    obtain ⟨k, value⟩ := e
    unfold decodeMessage
    rw [present?_cons]
    split
    · cases value <;> rfl
    · exact ih

-- ---------------------------------------------------------------------------
-- Settled values
-- ---------------------------------------------------------------------------

/-- Is the value decoded exactly if it is a node, and as a node of its kind? -/
structure Settled (v : Value) : Prop where
  accepts : ∀ path, Succeeds (Node.decode path v) ↔ Fits .node v
  kind : ∀ path node, Node.decode path v = .ok node → Fits (.part (.node node.kind)) v

theorem Kind.name_inj {k l : Kind} (h : k.name = l.name) : k = l := by
  have hName := Kind.ofName?_name k
  rw [h, Kind.ofName?_name] at hName
  exact (Option.some.inj hName).symm

theorem type_of_fits {kind : Kind} {fields : Fields}
    (h : Fits (.part (.node kind)) (.mapping fields)) :
    fields.present? "type" = some (.text kind.name) := by
  have hType : Obeys (.required "type" (.word kind.name)) fields :=
    fits_part_iff.mp h _ (List.mem_cons_self ..)
  -- the type is a required field, so its rule is obeyed by a word only
  cases hType with
  | absent hOptional => cases hOptional
  | present hValue hFits =>
    dsimp only [Rule.required] at hValue hFits
    cases hFits with
    | word => exact hValue

/-- Only what says of which kind it is can be decoded. -/
theorem exists_type_of_decode {path : Path} {fields : Fields} {node : Node}
    (h : Node.decode path (.mapping fields) = .ok node) :
    ∃ kind : Kind, fields.present? "type" = some (.text kind.name) := by
  rw [Node.decode] at h
  split at h
  · cases h
  · rename_i v hValue
    obtain ⟨name, hName, h⟩ := exists_of_bind_ok h
    have hText : v = .text name := by
      cases v <;> cases hName
      rfl
    dsimp only at h
    split at h
    · cases h
    · rename_i kind hKind
      have hFound := List.find?_some hKind
      exact ⟨kind, by rw [hValue, hText, eq_of_beq hFound]⟩

/-- A value is a node of one kind only. -/
theorem kind_unique {k l : Kind} {v : Value} (hk : Fits (.part (.node k)) v)
    (hl : Fits (.part (.node l)) v) : k = l := by
  cases v with
  | mapping fields =>
    have hType := type_of_fits hk
    rw [type_of_fits hl] at hType
    exact (Kind.name_inj (Value.text.inj (Option.some.inj hType))).symm
  | _ => cases hk

/-- A settled value that is a node of some kind is decoded as one of that kind, and no other
value is. -/
theorem Settled.fits_iff {v : Value} (h : Settled v) (path : Path) (kind : Kind) :
    Fits (.part (.node kind)) v ↔ ∃ node, Node.decode path v = .ok node ∧ node.kind = kind := by
  constructor
  · intro hFits
    obtain ⟨node, hNode⟩ := (h.accepts path).mpr (.node hFits)
    exact ⟨node, hNode, kind_unique (h.kind path node hNode) hFits⟩
  · rintro ⟨node, hNode, rfl⟩
    exact h.kind path node hNode

section Below

variable {fields : Fields} (hBelow : ∀ v, sizeOf v < sizeOf fields → Settled v) (key : String)
  (path : Path)

include hBelow

theorem decodeField_ok :
    Succeeds (decodeField key path fields) ↔ Obeys (.optional key .node) fields := by
  rw [decodeField_eq]
  cases h : fields.present? key with
  | none => exact iff_of_true (succeeds_ok none) (.absent rfl h)
  | some v =>
    rw [obeys_iff_of_present h]
    exact succeeds_map.trans ((hBelow v (sizeOf_present h)).accepts _)

theorem decodeEntries_ok :
    Succeeds (decodeEntries path fields) ↔ ∀ e ∈ fields, Fits .node e.2 := by
  induction fields with
  | nil => simp [decodeEntries, succeeds_ok]
  | cons e rest ih =>
    obtain ⟨name, value⟩ := e
    have hEntry : sizeOf ((name, value) :: rest) =
        1 + (1 + sizeOf name + sizeOf value) + sizeOf rest := rfl
    have hRest := ih fun v hv => hBelow v (by omega)
    rw [decodeEntries, List.forall_mem_cons]
    refine succeeds_bind ((hBelow value (by omega)).accepts _) fun node _ => ?_
    exact (succeeds_map (f := ((name, node) :: ·))).trans hRest

theorem decodeProperties_ok :
    Succeeds (decodeProperties key path fields) ↔ Obeys (.optional key .nodes) fields := by
  rw [decodeProperties_eq]
  cases h : fields.present? key with
  | none => exact iff_of_true (succeeds_ok []) (.absent rfl h)
  | some v =>
    rw [obeys_iff_of_present h]
    cases v with
    | mapping entries =>
      have hLess : sizeOf (Value.mapping entries) < sizeOf fields := sizeOf_present h
      have hEntries := Value.mapping.sizeOf_spec entries
      refine (decodeEntries_ok (fun v hv => hBelow v ?_) _).trans fits_nodes_iff.symm
      omega
    | _ => exact succeeds_iff_of_error rfl (fun hFits => by cases hFits)

/-- A node that is asked for, and may be asked for more than being a node. -/
theorem Decodes.require {β : Type} {good : β → Prop} {rest : List Rule} {form : Form}
    {admits : Node → Prop} {f : Option Node → Decoded β}
    (hForm : ∀ v, Settled v →
      (Fits form v ↔ ∃ node, Node.decode (path.child key) v = .ok node ∧ admits node))
    (hNone : ∃ e, f none = .error e)
    (hOthers : ∀ node, ¬ admits node → ∃ e, f (some node) = .error e)
    (hSome : ∀ node, admits node → Decodes (f (some node)) good rest fields) :
    Decodes (decodeField key path fields >>= f) good (.required key form :: rest) fields := by
  rw [decodeField_eq]
  have hFail : ∀ {x : Decoded β}, (∃ e, x = .error e) → ¬ Obeys (.required key form) fields →
      Decodes x good (.required key form :: rest) fields := by
    rintro x ⟨e, rfl⟩ hNot
    refine ⟨succeeds_iff_of_error rfl ?_, fun _ h => by cases h⟩
    rw [List.forall_mem_cons]
    exact fun h => hNot h.1
  cases h : fields.present? key with
  | none => exact hFail hNone (not_obeys_required h)
  | some v =>
    have hSettled := hForm v (hBelow v (sizeOf_present h))
    have hObeys : Obeys (.required key form) fields ↔ Fits form v := obeys_iff_of_present h
    show Decodes ((some <$> Node.decode (path.child key) v) >>= f) good _ fields
    cases hNode : Node.decode (path.child key) v with
    | error e =>
      refine hFail ⟨e, rfl⟩ ?_
      rw [hObeys, hSettled, hNode]
      rintro ⟨_, hEq, -⟩
      cases hEq
    | ok node =>
      by_cases hAdmits : admits node
      · exact (hSome node hAdmits).obeyed (hObeys.mpr (hSettled.mpr ⟨node, hNode, hAdmits⟩))
      · refine hFail (hOthers node hAdmits) ?_
        rw [hObeys, hSettled, hNode]
        rintro ⟨_, hEq, hAdmitted⟩
        cases hEq
        exact hAdmits hAdmitted

theorem decodeBody_ok :
    Succeeds (decodeBody key path fields) ↔ Obeys (.optional key (.part .body)) fields := by
  rw [decodeBody_eq]
  cases h : fields.present? key with
  | none => exact iff_of_true (succeeds_ok none) (.absent rfl h)
  | some v =>
    rw [obeys_iff_of_present h]
    cases v with
    | mapping inner =>
      have hLess : sizeOf (Value.mapping inner) < sizeOf fields := sizeOf_present h
      have hInner := Value.mapping.sizeOf_spec inner
      have hDecodes : Decodes (do
          let encoding ← Reader.string.required inner "encoding" (path.child key)
          let schema ← decodeField "schema" (path.child key) inner
          let description ← Reader.string.optional inner "description" (path.child key)
          return some (Body.mk encoding schema description)) (fun _ => True) Part.body.rules inner := by
        refine .step (required_ok reads_string ..) fun _ => ?_
        refine .step (decodeField_ok (fun v hv => hBelow v (by omega)) ..) fun _ => ?_
        refine .step (optional_ok reads_string ..) fun _ => ?_
        exact .done trivial
      exact hDecodes.accepts.trans fits_part_iff.symm
    | _ => exact succeeds_iff_of_error rfl (fun hFits => by cases hFits)

/-- A node that is asked for, of whatever kind. -/
theorem Decodes.requireNode {β : Type} {good : β → Prop} {rest : List Rule}
    {f : Option Node → Decoded β} (hNone : ∃ e, f none = .error e)
    (hSome : ∀ node, Decodes (f (some node)) good rest fields) :
    Decodes (decodeField key path fields >>= f) good (.required key .node :: rest) fields := by
  have hForm : ∀ v, Settled v →
      (Fits .node v ↔ ∃ node, Node.decode (path.child key) v = .ok node ∧ True) := by
    intro v hSettled
    simp only [and_true]
    exact (hSettled.accepts _).symm
  exact .require hBelow key path hForm hNone (fun _ hNot => (hNot trivial).elim)
    fun node _ => hSome node

theorem decodeMessage_ok :
    Succeeds (decodeMessage key path fields) ↔ Obeys (.optional key (.part .message)) fields := by
  rw [decodeMessage_eq]
  cases h : fields.present? key with
  | none => exact iff_of_true (succeeds_ok none) (.absent rfl h)
  | some v =>
    rw [obeys_iff_of_present h]
    cases v with
    | mapping inner =>
      have hLess : sizeOf (Value.mapping inner) < sizeOf fields := sizeOf_present h
      have hInner := Value.mapping.sizeOf_spec inner
      have hDecodes : Decodes (do
          match ← decodeField "schema" (path.child key) inner with
          | none => failAt (path.child key) (.missing "schema")
          | some schema =>
            let description ← Reader.string.optional inner "description" (path.child key)
            return some (Message.mk schema description)) (fun _ => True) Part.message.rules inner := by
        refine .requireNode (fun v hv => hBelow v (by omega)) _ _ ⟨_, rfl⟩ fun _ => ?_
        exact .step (optional_ok reads_string ..) fun _ => .done trivial
      exact hDecodes.accepts.trans fits_part_iff.symm
    | _ => exact succeeds_iff_of_error rfl (fun hFits => by cases hFits)

-- ---------------------------------------------------------------------------
-- Kinds
-- ---------------------------------------------------------------------------

/-- **A node of a kind** is decoded where the rules of the kind are obeyed. -/
theorem decodes_kind (kind : Kind) (hType : fields.present? "type" = some (.text kind.name)) :
    Decodes (Node.decode path (.mapping fields)) (·.kind = kind) (Part.node kind).rules fields := by
  have hWord : Obeys (.required "type" (.word kind.name)) fields := .present hType (.word _)
  refine Decodes.obeyed ?_ hWord
  have hName : Reader.string.check (path.child "type") (.text kind.name) = .ok kind.name := rfl
  rw [Node.decode, hType]
  dsimp only
  rw [hName, ok_bind, Kind.ofName?_name]
  dsimp only
  rw [ok_bind]
  refine .step (optional_ok reads_string ..) fun description => ?_
  -- the rules stand in the order in which the fields are read: one step for each of them
  cases kind with
  | boolean => exact .map (booleanRules_decodes ..) fun _ => rfl
  | integer => exact .map (integerRules_decodes ..) fun _ => rfl
  | string => exact .map (stringRules_decodes ..) fun _ => rfl
  | bytes => exact .map (lengthRules_decodes ..) fun _ => rfl
  | blob =>
    refine .step (listOrEmpty_ok reads_string ..) fun _ => ?_
    exact .step (optional_ok reads_integer ..) fun _ => .done rfl
  | cidLink => exact .done rfl
  | unknown => exact .done rfl
  | null => exact .done rfl
  | token => exact .done rfl
  | array =>
    refine .requireNode hBelow _ _ ⟨_, rfl⟩ fun _ => ?_
    exact .map (lengthRules_decodes ..) fun _ => rfl
  | object =>
    refine .step (decodeProperties_ok hBelow ..) fun _ => ?_
    refine .step (listOrEmpty_ok reads_string ..) fun _ => ?_
    exact .step (listOrEmpty_ok reads_string ..) fun _ => .done rfl
  | params =>
    refine .step (decodeProperties_ok hBelow ..) fun _ => ?_
    exact .step (listOrEmpty_ok reads_string ..) fun _ => .done rfl
  | record =>
    -- any node is decoded here, and refused afterwards if it is not an object
    refine .require hBelow _ _ (fun v hSettled => hSettled.fits_iff _ .object) ⟨_, rfl⟩ ?_ ?_
    · intro node hNot
      cases node with
      | object schema => exact (hNot rfl).elim
      | _ => exact ⟨_, rfl⟩
    · intro node hObject
      cases node with
      | object schema => exact .step (required_ok reads_string ..) fun _ => .done rfl
      | leaf d l => cases l <;> cases hObject
      | _ => cases hObject
  | union =>
    refine .step (requiredList_ok reads_string ..) fun _ => ?_
    exact .step (optional_ok reads_boolean ..) fun _ => .done rfl
  | ref => exact .step (required_ok reads_string ..) fun _ => .done rfl
  | query =>
    refine .step (decodeField_ok hBelow ..) fun _ => ?_
    refine .step (decodeBody_ok hBelow ..) fun _ => ?_
    exact .step (decodeErrors_ok ..) fun _ => .done rfl
  | procedure =>
    refine .step (decodeField_ok hBelow ..) fun _ => ?_
    refine .step (decodeBody_ok hBelow ..) fun _ => ?_
    refine .step (decodeBody_ok hBelow ..) fun _ => ?_
    exact .step (decodeErrors_ok ..) fun _ => .done rfl
  | subscription =>
    refine .step (decodeMessage_ok hBelow ..) fun _ => ?_
    refine .step (decodeField_ok hBelow ..) fun _ => ?_
    exact .step (decodeErrors_ok ..) fun _ => .done rfl

/-- What is decoded is a node of the kind that it is decoded as. -/
theorem fits_of_decode {node : Node} (h : Node.decode path (.mapping fields) = .ok node) :
    Fits (.part (.node node.kind)) (.mapping fields) := by
  obtain ⟨kind, hType⟩ := exists_type_of_decode h
  have hDecodes := decodes_kind hBelow path kind hType
  rw [hDecodes.good node h]
  exact .part (hDecodes.accepts.mp ⟨node, h⟩)

theorem mapping_settled : Settled (.mapping fields) where
  accepts path := by
    constructor
    · rintro ⟨node, hNode⟩
      exact .node (fits_of_decode hBelow path hNode)
    · intro hFits
      cases hFits with
      | node hKind =>
        have hDecodes := decodes_kind hBelow path _ (type_of_fits hKind)
        exact hDecodes.accepts.mpr (fits_part_iff.mp hKind)
  kind path _ hNode := fits_of_decode hBelow path hNode

end Below

-- ---------------------------------------------------------------------------
-- Values
-- ---------------------------------------------------------------------------

/-- What is no mapping is no node, and is not decoded. -/
theorem settled_of_not_mapping {v : Value} (h : ∀ fields, v ≠ .mapping fields) : Settled v := by
  have hFail : ∀ path, ∃ e, Node.decode path v = .error e := by
    intro path
    rw [Node.decode]
    · exact ⟨_, rfl⟩
    · exact h
  constructor
  · intro path
    obtain ⟨e, hError⟩ := hFail path
    refine succeeds_iff_of_error hError ?_
    intro hFits
    cases hFits with
    | node hKind =>
      cases hKind with
      | part => exact h _ rfl
  · intro path node hNode
    obtain ⟨e, hError⟩ := hFail path
    rw [hError] at hNode
    cases hNode

/-- **Every value is settled**, by induction on its size: the fields of a mapping are smaller than
the mapping. -/
theorem settled (v : Value) : Settled v := by
  induction hSize : sizeOf v using Nat.strongRecOn generalizing v with
  | ind n ih =>
    cases v with
    | mapping fields =>
      have hFields := Value.mapping.sizeOf_spec fields
      exact mapping_settled fun w hLess => ih (sizeOf w) (by omega) w rfl
    | _ => exact settled_of_not_mapping (by simp)

/-- A document is decoded if it is one. -/
theorem document_ok (v : Value) : Succeeds (Document.ofValue v) ↔ Fits (.part .document) v := by
  cases v with
  | mapping fields =>
    have hObject : Reader.object.check "" (.mapping fields) = .ok fields := rfl
    rw [fits_part_iff, Document.ofValue, hObject, ok_bind]
    -- that there are definitions is checked before any field is read
    cases h : Fields.present? fields "defs" with
    | none =>
      refine succeeds_iff_of_error rfl fun hRules => ?_
      exact not_obeys_required h (hRules (.required "defs" .nodes) (by simp [Part.rules]))
    | some defs =>
      have hDefinitions : Succeeds (decodeProperties "defs" "" fields) ↔
          Obeys (.required "defs" .nodes) fields := by
        rw [decodeProperties_ok (fun w _ => settled w), obeys_iff_of_present h,
          obeys_iff_of_present h]
        rfl
      have hDecodes : Decodes (do
          let lexicon ← Reader.integer.required fields "lexicon" ""
          let id ← Reader.string.required fields "id" ""
          let revision ← Document.revisionReader.optional fields "revision" ""
          let description ← Reader.string.optional fields "description" ""
          let definitions ← decodeProperties "defs" "" fields
          return Document.mk lexicon id revision description definitions) (fun _ => True)
          Part.document.rules fields := by
        refine .step (required_ok reads_integer ..) fun _ => ?_
        refine .step (required_ok reads_string ..) fun _ => ?_
        refine .step (optional_ok reads_revision ..) fun _ => ?_
        refine .step (optional_ok reads_string ..) fun _ => ?_
        exact .step hDefinitions fun _ => .done trivial
      exact hDecodes.accepts
  | _ => exact succeeds_iff_of_error rfl (fun hFits => by cases hFits)

/-- **The decoder accepts exactly its grammar.** A value is decoded as a node, wherever it is
found, if and only if it is a mapping whose `type` is the name of a kind and whose fields obey the
rules of that kind; and as a document, if and only if it obeys the rules of documents. -/
theorem decoder_accepts_grammar :
    (∀ path v, (∃ node, Node.decode path v = .ok node) ↔ Fits .node v) ∧
      ∀ v, (∃ document, Document.ofValue v = .ok document) ↔ Fits (.part .document) v :=
  ⟨fun path v => (settled v).accepts path, document_ok⟩

end Lexicon.Schema
