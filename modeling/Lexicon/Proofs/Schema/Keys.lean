import Lexicon.Proofs.Json.Keys
import Lexicon.Schema.Decode
import Lexicon.Schema.Equality

/-!
# Lexicon — schemas whose names occur once

The properties of an object and the definitions of a document are mappings from names to
nodes, held as lists of pairs. Decoding keeps the keys of the value it decodes, so that no
name occurs twice in a decoded document; and where no name occurs twice, a schema says the
same as itself.

* `Node.Keyed`, `ObjectSchema.Keyed`, `Document.Keyed` — every name occurs once among its
                             like, at every depth.
* `Payload.Keyed`          — the same for what a document is given as.
* `Document.decode_keyed`  — a keyed payload is decoded as a keyed document.
* `ObjectSchema.same_refl` — a keyed schema says the same as itself.
-/

namespace Lexicon.Schema

-- ---------------------------------------------------------------------------
-- Keyed schemas
-- ---------------------------------------------------------------------------

mutual

/-- The names of all mappings in the node occur once. -/
inductive Node.Keyed : Node → Prop
  | leaf {d : Option String} {l : Leaf} : Node.Keyed (.leaf d l)
  | array {d : Option String} {items : Node} {rules : LengthRules} (hItems : Node.Keyed items) :
      Node.Keyed (.array d items rules)
  | object {schema : ObjectSchema} (hSchema : ObjectSchema.Keyed schema) :
      Node.Keyed (.object schema)
  | params {d : Option String} {properties : List (String × Node)} {required : List String}
      (hNames : (properties.map Prod.fst).Nodup) (hNodes : ∀ p ∈ properties, Node.Keyed p.2) :
      Node.Keyed (.params d properties required)
  | record {d : Option String} {key : String} {schema : ObjectSchema}
      (hSchema : ObjectSchema.Keyed schema) : Node.Keyed (.record d key schema)
  | query {d : Option String} {parameters : Option Node} {output : Option (Body Node)}
      {errors : List ErrorVariant} (hParameters : ∀ n, parameters = some n → Node.Keyed n)
      (hOutput : ∀ b n, output = some b → b.schema = some n → Node.Keyed n) :
      Node.Keyed (.query d parameters output errors)
  | procedure {d : Option String} {parameters : Option Node} {input output : Option (Body Node)}
      {errors : List ErrorVariant} (hParameters : ∀ n, parameters = some n → Node.Keyed n)
      (hInput : ∀ b n, input = some b → b.schema = some n → Node.Keyed n)
      (hOutput : ∀ b n, output = some b → b.schema = some n → Node.Keyed n) :
      Node.Keyed (.procedure d parameters input output errors)
  | subscription {d : Option String} {parameters : Option Node} {message : Option (Message Node)}
      {errors : List ErrorVariant} (hParameters : ∀ n, parameters = some n → Node.Keyed n)
      (hMessage : ∀ m, message = some m → Node.Keyed m.schema) :
      Node.Keyed (.subscription d parameters message errors)

/-- The names of all mappings in the object's description occur once. -/
inductive ObjectSchema.Keyed : ObjectSchema → Prop
  | mk {d : Option String} {properties : List (String × Node)} {required nullable : List String}
      (hNames : (properties.map Prod.fst).Nodup) (hNodes : ∀ p ∈ properties, Node.Keyed p.2) :
      ObjectSchema.Keyed (.mk d properties required nullable)

end

/-- The names of all mappings in the document occur once. -/
structure Document.Keyed (d : Document) : Prop where
  names : d.names.Nodup
  nodes : ∀ p ∈ d.definitions, p.2.Keyed

/-- A payload without repeated keys. Texts and bytes may repeat keys, since reading them
keeps one entry for each. -/
def Payload.Keyed : Payload → Prop
  | .value v => v.Keyed
  | .text _ => True
  | .bytes _ => True
  | .document d => d.Keyed

-- ---------------------------------------------------------------------------
-- Sameness
-- ---------------------------------------------------------------------------

/-- Properties that are looked up as they are and that say the same as themselves, do so
together. -/
theorem sameProperties_of_lookup {properties others : List (String × Node)}
    (hLookup : ∀ p ∈ properties, others.lookup p.1 = some p.2)
    (hSame : ∀ p ∈ properties, p.2.same p.2 = true) : sameProperties properties others = true := by
  induction properties with
  | nil => rw [sameProperties]
  | cons p rest ih =>
    obtain ⟨name, node⟩ := p
    rw [sameProperties, hLookup _ (List.mem_cons_self ..), Bool.and_eq_true]
    exact ⟨hSame _ (List.mem_cons_self ..), ih
      (fun q hq => hLookup q (List.mem_cons_of_mem _ hq))
      (fun q hq => hSame q (List.mem_cons_of_mem _ hq))⟩

theorem sameProperties_refl {properties : List (String × Node)}
    (hNames : (properties.map Prod.fst).Nodup)
    (hSame : ∀ p ∈ properties, p.2.same p.2 = true) :
    sameProperties properties properties = true :=
  sameProperties_of_lookup (fun _ hp => lookup_of_mem hNames hp) hSame

theorem sameOptional_refl {node : Option Node} (h : ∀ n, node = some n → n.same n = true) :
    sameOptional node node = true := by
  cases node with
  | none => rw [sameOptional]
  | some n => rw [sameOptional, h n rfl]

theorem sameBody_refl {body : Option (Body Node)}
    (h : ∀ b n, body = some b → b.schema = some n → n.same n = true) :
    sameBody body body = true := by
  cases body with
  | none => rw [sameBody]
  | some b =>
    obtain ⟨encoding, schema, description⟩ := b
    cases schema with
    | none => simp [sameBody]
    | some n => simp [sameBody, h _ n rfl rfl]

theorem sameMessage_refl {message : Option (Message Node)}
    (h : ∀ m, message = some m → m.schema.same m.schema = true) :
    sameMessage message message = true := by
  cases message with
  | none => rw [sameMessage]
  | some m =>
    obtain ⟨schema, description⟩ := m
    simp [sameMessage, h _ rfl]

mutual

/-- A keyed node says the same as itself. -/
theorem Node.same_refl : ∀ {node : Node}, node.Keyed → node.same node = true
  | _, .leaf => by simp [Node.same]
  | _, .array hItems => by simp [Node.same, Node.same_refl hItems]
  | _, .object hSchema => by rw [Node.same, ObjectSchema.same_refl hSchema]
  | _, .params hNames hNodes => by
    simp [Node.same, sameProperties_refl hNames fun p hp => Node.same_refl (hNodes p hp)]
  | _, .record hSchema => by simp [Node.same, ObjectSchema.same_refl hSchema]
  | _, .query hParameters hOutput => by
    simp [Node.same, sameOptional_refl fun n hn => Node.same_refl (hParameters n hn),
      sameBody_refl fun b n hb hn => Node.same_refl (hOutput b n hb hn)]
  | _, .procedure hParameters hInput hOutput => by
    simp [Node.same, sameOptional_refl fun n hn => Node.same_refl (hParameters n hn),
      sameBody_refl fun b n hb hn => Node.same_refl (hInput b n hb hn),
      sameBody_refl fun b n hb hn => Node.same_refl (hOutput b n hb hn)]
  | _, .subscription hParameters hMessage => by
    simp [Node.same, sameOptional_refl fun n hn => Node.same_refl (hParameters n hn),
      sameMessage_refl fun m hm => Node.same_refl (hMessage m hm)]

/-- A keyed schema says the same as itself. -/
theorem ObjectSchema.same_refl : ∀ {schema : ObjectSchema}, schema.Keyed →
    schema.same schema = true
  | _, .mk hNames hNodes => by
    simp [ObjectSchema.same,
      sameProperties_refl hNames fun p hp => Node.same_refl (hNodes p hp)]

end

-- ---------------------------------------------------------------------------
-- Decoding
-- ---------------------------------------------------------------------------

/-- What is decoded from the value, or from an entry of it, is keyed, and so is the
value itself on its first level. -/
structure Delivers (v : Value) : Prop where
  node : ∀ path n, Node.decode path v = .ok n → n.Keyed
  names : ∀ entries, v = .mapping entries → (entries.map Prod.fst).Nodup
  below : ∀ entries, v = .mapping entries → ∀ e ∈ entries, ∀ path n,
    Node.decode path e.2 = .ok n → n.Keyed

theorem decodeField_keyed {key : String} {path : Path} {fields : Fields}
    (hFields : ∀ e ∈ fields, ∀ path n, Node.decode path e.2 = .ok n → n.Keyed) {n : Node}
    (h : decodeField key path fields = .ok (some n)) : n.Keyed := by
  induction fields with
  | nil =>
    rw [decodeField] at h
    cases h
  | cons e rest ih =>
    obtain ⟨k, value⟩ := e
    unfold decodeField at h
    split at h
    · split at h
      · cases h
      · cases hNode : Node.decode (path.child key) value with
        | error fault =>
          rw [hNode] at h
          cases h
        | ok node =>
          rw [hNode] at h
          cases h
          exact hFields _ (List.mem_cons_self ..) _ _ hNode
    · exact ih (fun x hx => hFields x (List.mem_cons_of_mem _ hx)) h

/-- Entries are decoded under their own names. -/
theorem decodeEntries_keyed {path : Path} {entries : Fields}
    (hEntries : ∀ e ∈ entries, ∀ path n, Node.decode path e.2 = .ok n → n.Keyed)
    {properties : List (String × Node)} (h : decodeEntries path entries = .ok properties) :
    properties.map Prod.fst = entries.map Prod.fst ∧ ∀ p ∈ properties, p.2.Keyed := by
  induction entries generalizing properties with
  | nil =>
    rw [decodeEntries] at h
    cases h
    exact ⟨rfl, fun p hp => by cases hp⟩
  | cons e rest ih =>
    obtain ⟨name, value⟩ := e
    rw [decodeEntries] at h
    obtain ⟨node, hNode, h⟩ := exists_of_bind_ok h
    obtain ⟨others, hOthers, h⟩ := exists_of_bind_ok h
    cases h
    obtain ⟨hNames, hNodes⟩ := ih (fun x hx => hEntries x (List.mem_cons_of_mem _ hx)) hOthers
    refine ⟨by rw [List.map_cons, List.map_cons, hNames], ?_⟩
    intro p hp
    rcases List.mem_cons.mp hp with rfl | hp
    · exact hEntries _ (List.mem_cons_self ..) _ _ hNode
    · exact hNodes p hp

theorem decodeProperties_keyed {key : String} {path : Path} {fields : Fields}
    (hFields : ∀ e ∈ fields, Delivers e.2) {properties : List (String × Node)}
    (h : decodeProperties key path fields = .ok properties) :
    (properties.map Prod.fst).Nodup ∧ ∀ p ∈ properties, p.2.Keyed := by
  induction fields with
  | nil =>
    rw [decodeProperties] at h
    cases h
    exact ⟨List.nodup_nil, fun p hp => by cases hp⟩
  | cons e rest ih =>
    obtain ⟨k, value⟩ := e
    have hHead := hFields _ (List.mem_cons_self ..)
    unfold decodeProperties at h
    split at h
    · split at h
      · cases h
        exact ⟨List.nodup_nil, fun p hp => by cases hp⟩
      · next entries =>
        obtain ⟨hNames, hNodes⟩ := decodeEntries_keyed (hHead.below entries rfl) h
        exact ⟨hNames ▸ hHead.names entries rfl, hNodes⟩
      · cases h
    · exact ih (fun x hx => hFields x (List.mem_cons_of_mem _ hx)) h

theorem decodeBody_keyed {key : String} {path : Path} {fields : Fields}
    (hFields : ∀ e ∈ fields, Delivers e.2) {b : Body Node} {n : Node}
    (h : decodeBody key path fields = .ok (some b)) (hn : b.schema = some n) : n.Keyed := by
  induction fields with
  | nil =>
    rw [decodeBody] at h
    cases h
  | cons e rest ih =>
    obtain ⟨k, value⟩ := e
    have hHead := hFields _ (List.mem_cons_self ..)
    unfold decodeBody at h
    split at h
    · split at h
      · cases h
      · next entries =>
        obtain ⟨encoding, _, h⟩ := exists_of_bind_ok h
        obtain ⟨schema, hSchema, h⟩ := exists_of_bind_ok h
        obtain ⟨description, _, h⟩ := exists_of_bind_ok h
        cases h
        dsimp only at hn
        rw [hn] at hSchema
        exact decodeField_keyed (hHead.below entries rfl) hSchema
      · cases h
    · exact ih (fun x hx => hFields x (List.mem_cons_of_mem _ hx)) h

theorem decodeMessage_keyed {key : String} {path : Path} {fields : Fields}
    (hFields : ∀ e ∈ fields, Delivers e.2) {m : Message Node}
    (h : decodeMessage key path fields = .ok (some m)) : m.schema.Keyed := by
  induction fields with
  | nil =>
    rw [decodeMessage] at h
    cases h
  | cons e rest ih =>
    obtain ⟨k, value⟩ := e
    have hHead := hFields _ (List.mem_cons_self ..)
    unfold decodeMessage at h
    split at h
    · split at h
      · cases h
      · next entries =>
        obtain ⟨schema, hSchema, h⟩ := exists_of_bind_ok h
        cases schema with
        | none => cases h
        | some schema =>
          obtain ⟨description, _, h⟩ := exists_of_bind_ok h
          cases h
          exact decodeField_keyed (hHead.below entries rfl) hSchema
      · cases h
    · exact ih (fun x hx => hFields x (List.mem_cons_of_mem _ hx)) h

/-- A node decoded from a mapping is keyed if its entries deliver keyed nodes: one case
for each kind. -/
theorem decodeMapping_keyed {path : Path} {fields : Fields} (hFields : ∀ e ∈ fields, Delivers e.2)
    {n : Node} (h : Node.decode path (.mapping fields) = .ok n) : n.Keyed := by
  have hNodes : ∀ e ∈ fields, ∀ path n, Node.decode path e.2 = .ok n → n.Keyed :=
    fun e he => (hFields e he).node
  -- every kind is decoded after the name of the kind and the description
  rw [Node.decode] at h
  split at h
  · cases h
  obtain ⟨name, _, h⟩ := exists_of_bind_ok h
  dsimp only at h
  split at h
  · cases h
  obtain ⟨kind, _, h⟩ := exists_of_bind_ok h
  obtain ⟨description, _, h⟩ := exists_of_bind_ok h
  cases kind with
  | cidLink | unknown | null | token =>
    cases h
    exact .leaf
  | boolean | integer | string | bytes | ref =>
    obtain ⟨rules, _, h⟩ := exists_of_bind_ok h
    cases h
    exact .leaf
  | blob | union =>
    obtain ⟨entries, _, h⟩ := exists_of_bind_ok h
    obtain ⟨entry, _, h⟩ := exists_of_bind_ok h
    cases h
    exact .leaf
  | array =>
    obtain ⟨items, hItems, h⟩ := exists_of_bind_ok h
    cases items with
    | none => cases h
    | some items =>
      obtain ⟨rules, _, h⟩ := exists_of_bind_ok h
      cases h
      exact .array (decodeField_keyed hNodes hItems)
  | object =>
    obtain ⟨properties, hProperties, h⟩ := exists_of_bind_ok h
    obtain ⟨required, _, h⟩ := exists_of_bind_ok h
    obtain ⟨nullable, _, h⟩ := exists_of_bind_ok h
    cases h
    obtain ⟨hNames, hKeyed⟩ := decodeProperties_keyed hFields hProperties
    exact .object (.mk hNames hKeyed)
  | params =>
    obtain ⟨properties, hProperties, h⟩ := exists_of_bind_ok h
    obtain ⟨required, _, h⟩ := exists_of_bind_ok h
    cases h
    obtain ⟨hNames, hKeyed⟩ := decodeProperties_keyed hFields hProperties
    exact .params hNames hKeyed
  | record =>
    obtain ⟨inner, hInner, h⟩ := exists_of_bind_ok h
    split at h
    · cases h
    · obtain ⟨key, _, h⟩ := exists_of_bind_ok h
      cases h
      cases decodeField_keyed hNodes hInner with
      | object hSchema => exact .record hSchema
    · cases h
  | query =>
    obtain ⟨parameters, hParameters, h⟩ := exists_of_bind_ok h
    obtain ⟨output, hOutput, h⟩ := exists_of_bind_ok h
    obtain ⟨errors, _, h⟩ := exists_of_bind_ok h
    cases h
    refine .query ?_ ?_
    · rintro n rfl
      exact decodeField_keyed hNodes hParameters
    · rintro b n rfl hn
      exact decodeBody_keyed hFields hOutput hn
  | procedure =>
    obtain ⟨parameters, hParameters, h⟩ := exists_of_bind_ok h
    obtain ⟨input, hInput, h⟩ := exists_of_bind_ok h
    obtain ⟨output, hOutput, h⟩ := exists_of_bind_ok h
    obtain ⟨errors, _, h⟩ := exists_of_bind_ok h
    cases h
    refine .procedure ?_ ?_ ?_
    · rintro n rfl
      exact decodeField_keyed hNodes hParameters
    · rintro b n rfl hn
      exact decodeBody_keyed hFields hInput hn
    · rintro b n rfl hn
      exact decodeBody_keyed hFields hOutput hn
  | subscription =>
    obtain ⟨message, hMessage, h⟩ := exists_of_bind_ok h
    obtain ⟨parameters, hParameters, h⟩ := exists_of_bind_ok h
    obtain ⟨errors, _, h⟩ := exists_of_bind_ok h
    cases h
    refine .subscription ?_ ?_
    · rintro n rfl
      exact decodeField_keyed hNodes hParameters
    · rintro m rfl
      exact decodeMessage_keyed hFields hMessage

theorem Value.Keyed.delivers {v : Value} (h : v.Keyed) : Delivers v := by
  have hScalar : ∀ v : Value, (∀ entries, v ≠ .mapping entries) → Delivers v := by
    intro v hv
    refine ⟨?_, fun entries hEq => absurd hEq (hv entries), fun entries hEq => absurd hEq (hv entries)⟩
    intro path n h
    cases v with
    | mapping entries => exact absurd rfl (hv entries)
    | _ =>
      rw [Node.decode] at h
      · cases h
      · exact hv
  induction h with
  | mapping hKeys _ ih =>
    refine ⟨fun path n h => decodeMapping_keyed ih h, ?_, ?_⟩
    · rintro entries hEq
      cases hEq
      exact hKeys
    · rintro entries hEq
      cases hEq
      exact fun e he => (ih e he).node
  | _ => exact hScalar _ (by simp)

/-- **Decoding keeps keys apart.** A keyed value is decoded as a keyed node. -/
theorem Node.decode_keyed {path : Path} {v : Value} {n : Node} (hv : v.Keyed)
    (h : Node.decode path v = .ok n) : n.Keyed :=
  (Value.Keyed.delivers hv).node path n h

theorem Document.ofValue_keyed {v : Value} {d : Document} (hv : v.Keyed)
    (h : Document.ofValue v = .ok d) : d.Keyed := by
  obtain ⟨fields, hFields, hRest⟩ := exists_of_bind_ok h
  cases hv with
  | mapping hKeys hValues =>
    cases hFields
    split at hRest
    · cases hRest
    · obtain ⟨lexicon, _, hRest⟩ := exists_of_bind_ok hRest
      obtain ⟨id, _, hRest⟩ := exists_of_bind_ok hRest
      obtain ⟨revision, _, hRest⟩ := exists_of_bind_ok hRest
      obtain ⟨description, _, hRest⟩ := exists_of_bind_ok hRest
      obtain ⟨definitions, hDefinitions, hRest⟩ := exists_of_bind_ok hRest
      cases hRest
      obtain ⟨hNames, hNodes⟩ :=
        decodeProperties_keyed (fun e he => Value.Keyed.delivers (hValues e he)) hDefinitions
      exact ⟨hNames, hNodes⟩
  | _ => cases hFields

theorem Document.ofText_keyed {text : String} {d : Document}
    (h : Document.ofText text = .ok d) : d.Keyed := by
  unfold Document.ofText at h
  split at h
  · next v hRead => exact Document.ofValue_keyed (Json.read_keyed hRead) h
  · cases h

/-- **Documents are keyed.** What a keyed payload is decoded as names nothing twice. -/
theorem Document.decode_keyed {payload : Payload} {d : Document} (hPayload : payload.Keyed)
    (h : Document.decode payload = .ok d) : d.Keyed := by
  unfold Document.decode at h
  split at h
  · exact Document.ofText_keyed h
  · exact Document.ofValue_keyed hPayload h
  · exact Document.ofText_keyed h
  · unfold Document.ofBytes at h
    split at h
    · cases h
    · split at h
      · next v hRead => exact Document.ofValue_keyed (Json.readText_keyed hRead) h
      · cases h
  · cases h
    exact hPayload

end Lexicon.Schema
