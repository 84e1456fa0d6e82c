import Lexicon.Proofs.Schema.Moved
import Lexicon.Proofs.Schema.Position

/-!
# Lexicon — where faults are reported

A fault in a schema node is reported at the node. The decoder makes checks of its own before and
after it turns to the nodes below, so the order of the checks matters: a value that could be decoded
passes all that come before the node that was changed, and the error of that node ends the run.

* `Replaced`              — one field of a mapping has another value, the others are as they were.
* `decode_blames`         — a node fails with the error of the node below it, by the kind of node.
* `decode_blames_position` — and so does every node above it.
* `document_blames`       — a document fails with the error of a definition.
* `Payload.Holds`         — the value that a payload is or is a text of.
* `decode_error_local`    — the error of a node put into a document is the error of that node alone,
                            found at the dotted path of its position.
-/

namespace Lexicon.Schema

-- ---------------------------------------------------------------------------
-- Changed fields
-- ---------------------------------------------------------------------------

/-- `Replaced key value fields changed`: one field has another value, and the others are as they
were. -/
structure Replaced (key : String) (value : Value) (fields changed : Fields) : Prop where
  found : changed.present? key = some value
  others : ∀ k, k ≠ key → changed.present? k = fields.present? k

theorem present?_put_of_ne (fields : Fields) {key k : String} (h : k ≠ key) (value : Value) :
    (Fields.put key value fields).present? k = fields.present? k := by
  rw [Fields.present?, Fields.lookup_put_of_ne (Ne.symm h), Fields.present?]

theorem replaced_put (fields : Fields) (key : String) {value : Value} (h : value ≠ .null) :
    Replaced key value fields (Fields.put key value fields) where
  found := by
    rw [Fields.present?, Fields.lookup_put_self]
    cases value with
    | null => exact (h rfl).elim
    | _ => rfl
  others _ hk := present?_put_of_ne fields hk value

theorem optional_congr {α : Type} (reader : Reader α) {fields changed : Fields} {key : String}
    (h : changed.present? key = fields.present? key) (path : Path) :
    reader.optional changed key path = reader.optional fields key path := by
  rw [Reader.optional, Reader.optional, h]

theorem required_congr {α : Type} (reader : Reader α) {fields changed : Fields} {key : String}
    (h : changed.present? key = fields.present? key) (path : Path) :
    reader.required changed key path = reader.required fields key path := by
  rw [Reader.required, Reader.required, h]

section Blame

variable {fields changed : Fields} {path : Path} {key : String} {x : Value} {e : DecodeError}

theorem decodeField_congr (h : changed.present? key = fields.present? key) :
    decodeField key path changed = decodeField key path fields := by
  rw [decodeField_eq, decodeField_eq, h]

theorem decodeBody_congr (h : changed.present? key = fields.present? key) :
    decodeBody key path changed = decodeBody key path fields := by
  rw [decodeBody_eq, decodeBody_eq, h]

theorem decodeMessage_congr (h : changed.present? key = fields.present? key) :
    decodeMessage key path changed = decodeMessage key path fields := by
  rw [decodeMessage_eq, decodeMessage_eq, h]

theorem decodeField_blames (h : changed.present? key = some x)
    (hBad : Node.decode (path.child key) x = .error e) :
    decodeField key path changed = .error e := by
  rw [decodeField_eq, h]
  dsimp only
  rw [hBad]
  rfl

/-- The entries before the changed one are decoded as before. -/
theorem decodeEntries_blames {entries : Fields} {properties : List (String × Node)} {name : String}
    {w : Value} (hOk : decodeEntries path entries = .ok properties)
    (hName : entries.lookup name = some w) (hBad : Node.decode (path.child name) x = .error e) :
    decodeEntries path (Fields.put name x entries) = .error e := by
  induction entries generalizing properties with
  | nil => cases hName
  | cons entry rest ih =>
    obtain ⟨k, v⟩ := entry
    rw [decodeEntries] at hOk
    obtain ⟨node, hNode, hOk⟩ := exists_of_bind_ok hOk
    obtain ⟨others, hOthers, -⟩ := exists_of_bind_ok hOk
    rw [Fields.put]
    split
    · rw [decodeEntries, hBad]
      rfl
    · rename_i hOther
      rw [List.lookup_cons, beq_eq_false_iff_ne.mpr (Ne.symm hOther)] at hName
      rw [decodeEntries, hNode, ok_bind, ih hOthers hName]
      rfl

theorem decodeProperties_blames {entries : Fields} {properties : List (String × Node)}
    {name : String} {w : Value} (hOk : decodeProperties key path fields = .ok properties)
    (hEntries : fields.lookup key = some (.mapping entries)) (hName : entries.lookup name = some w)
    (h : Replaced key (.mapping (Fields.put name x entries)) fields changed)
    (hBad : Node.decode ((path.child key).child name) x = .error e) :
    decodeProperties key path changed = .error e := by
  rw [decodeProperties_eq, Fields.present?, hEntries] at hOk
  rw [decodeProperties_eq, h.found]
  exact decodeEntries_blames hOk hName hBad

theorem decodeBody_blames {inner : Fields} {body : Option (Body Node)} (hx : x ≠ .null)
    (hOk : decodeBody key path fields = .ok body) (hInner : fields.lookup key = some (.mapping inner))
    (h : Replaced key (.mapping (Fields.put "schema" x inner)) fields changed)
    (hBad : Node.decode ((path.child key).child "schema") x = .error e) :
    decodeBody key path changed = .error e := by
  have hSchema := replaced_put inner "schema" hx
  rw [decodeBody_eq, Fields.present?, hInner] at hOk
  obtain ⟨encoding, hEncoding, -⟩ := exists_of_bind_ok hOk
  rw [decodeBody_eq, h.found]
  dsimp only
  rw [required_congr .string (hSchema.others "encoding" (by decide)), hEncoding, ok_bind,
    decodeField_blames hSchema.found hBad]
  rfl

theorem decodeMessage_blames {inner : Fields} (hx : x ≠ .null)
    (h : Replaced key (.mapping (Fields.put "schema" x inner)) fields changed)
    (hBad : Node.decode ((path.child key).child "schema") x = .error e) :
    decodeMessage key path changed = .error e := by
  rw [decodeMessage_eq, h.found]
  dsimp only
  rw [decodeField_blames (replaced_put inner "schema" hx).found hBad]
  rfl

end Blame

-- ---------------------------------------------------------------------------
-- Branches
-- ---------------------------------------------------------------------------

/-- What is found on a branch that is no property. -/
theorem held_of_lookup {branches : List Branch} {v w : Value} {branch : Branch}
    (h : (branches.flatMap (heldBy v)).lookup branch = some w) :
    branch ∈ branches ∧ follow branch.keys v = some w := by
  obtain ⟨held, hHeld, hEntry⟩ := List.mem_flatMap.mp (mem_of_lookup h)
  rw [heldBy] at hEntry
  split at hEntry
  · cases hEntry
  · cases hEntry
  · rename_i found _ hFound
    obtain ⟨rfl, rfl⟩ := Prod.mk.inj (List.mem_singleton.mp hEntry)
    exact ⟨hHeld, hFound⟩

/-- What is found on the branch of a property. -/
theorem property_of_lookup {fields : Fields} {branch : Branch} {w : Value}
    (h : (propertiesOf (.mapping fields)).lookup branch = some w) :
    ∃ name entries, branch = .property name ∧ fields.lookup "properties" = some (.mapping entries) ∧
      entries.lookup name = some w := by
  rw [propertiesOf, follow_key] at h
  split at h
  · rename_i entries hEntries
    have hLookup : ∃ name, branch = .property name ∧ entries.lookup name = some w := by
      clear hEntries
      induction entries with
      | nil => cases h
      | cons entry rest ih =>
        obtain ⟨k, v⟩ := entry
        rw [List.map_cons, List.lookup_cons] at h
        by_cases hBranch : branch = .property k
        · subst hBranch
          rw [beq_self_eq_true] at h
          exact ⟨k, rfl, by rw [List.lookup_cons, beq_self_eq_true]; exact h⟩
        · rw [beq_eq_false_iff_ne.mpr hBranch] at h
          obtain ⟨name, rfl, hName⟩ := ih h
          have hOther : (name == k) = false := by
            rw [beq_eq_false_iff_ne]
            rintro rfl
            exact hBranch rfl
          exact ⟨name, rfl, by rw [List.lookup_cons, hOther]; exact hName⟩
    obtain ⟨name, hBranch, hName⟩ := hLookup
    exact ⟨name, entries, hBranch, hEntries, hName⟩
  · cases h

/-- What two keys lead to lies in a mapping. -/
theorem exists_of_follow_two {first second : String} {fields : Fields} {w : Value}
    (h : follow [first, second] (.mapping fields) = some w) :
    ∃ inner, fields.lookup first = some (.mapping inner) ∧ inner.lookup second = some w := by
  obtain ⟨v, hv, hw⟩ := Option.bind_eq_some_iff.mp h
  cases v with
  | mapping inner => exact ⟨inner, hv, by rwa [follow_key] at hw⟩
  | _ => cases hw

/-- The field that a branch goes through. -/
def Branch.field (branch : Branch) : String := branch.keys.headD ""

/-- No branch goes through the fields that all nodes have. -/
theorem Branch.field_ne (branch : Branch) : "type" ≠ branch.field ∧ "description" ≠ branch.field := by
  cases branch with
  | property name =>
    show "type" ≠ "properties" ∧ "description" ≠ "properties"
    decide
  | _ => decide

/-- Planting on a branch changes the field that the branch goes through. -/
theorem plant_branch (branch : Branch) (x : Value) (fields : Fields) :
    ∃ changed : Fields, plant x branch.keys (.mapping fields) = .mapping changed ∧
      ∀ k, k ≠ branch.field → changed.present? k = fields.present? k := by
  cases branch <;> exact ⟨_, rfl, fun k hk => present?_put_of_ne _ hk _⟩

section Planted

variable {fields changed inner : Fields} {branch : Branch} {key : String} {x : Value}

theorem replaced_of_plant_one (hKeys : branch.keys = [key]) (hx : x ≠ .null)
    (hPlant : plant x branch.keys (.mapping fields) = .mapping changed) :
    Replaced key x fields changed := by
  rw [hKeys] at hPlant
  cases hPlant
  exact replaced_put fields key hx

theorem replaced_of_plant_two {second : String} (hKeys : branch.keys = [key, second])
    (hInner : fields.lookup key = some (.mapping inner))
    (hPlant : plant x branch.keys (.mapping fields) = .mapping changed) :
    Replaced key (.mapping (Fields.put second x inner)) fields changed := by
  rw [hKeys, plant, hInner] at hPlant
  cases hPlant
  exact replaced_put fields key (by simp)

end Planted

-- ---------------------------------------------------------------------------
-- Nodes
-- ---------------------------------------------------------------------------

/-- **A node blames the node below it**: if what lies on a branch cannot be decoded any more, no
other check comes before it, and its error is the error of the node. -/
theorem decode_blames {path : Path} {v w x : Value} {node : Node} {branch : Branch}
    {e : DecodeError} (hOk : Node.decode path v = .ok node)
    (hBelow : (valuesBelow v).lookup branch = some w) (hx : x ≠ .null)
    (hBad : Node.decode (path.along branch.keys) x = .error e) :
    Node.decode path (plant x branch.keys v) = .error e := by
  cases v with
  | mapping fields =>
    obtain ⟨kind, hType⟩ := exists_type_of_decode hOk
    have hKind : kindOf? (.mapping fields) = some kind := by
      rw [kindOf?, hType]
      exact Kind.ofName?_name kind
    have hName : Reader.string.check (path.child "type") (.text kind.name) = .ok kind.name := rfl
    obtain ⟨changed, hPlant, hOthers⟩ := plant_branch branch x fields
    -- what comes before the kind of node matters is as it was
    rw [Node.decode, hType] at hOk
    rw [hPlant, Node.decode, hOthers "type" branch.field_ne.1, hType]
    dsimp only at hOk ⊢
    rw [hName, ok_bind, Kind.ofName?_name] at hOk
    rw [hName, ok_bind, Kind.ofName?_name]
    dsimp only at hOk ⊢
    rw [ok_bind] at hOk
    obtain ⟨description, hDescription, hOk⟩ := exists_of_bind_ok hOk
    rw [ok_bind, optional_congr .string (hOthers "description" branch.field_ne.2), hDescription,
      ok_bind]
    rw [valuesBelow, hKind] at hBelow
    cases kind with
    | object | params =>
      obtain ⟨name, entries, rfl, hEntries, hEntry⟩ := property_of_lookup hBelow
      obtain ⟨properties, hProperties, -⟩ := exists_of_bind_ok hOk
      dsimp only
      rw [decodeProperties_blames hProperties hEntries hEntry
        (replaced_of_plant_two rfl hEntries hPlant) hBad]
      rfl
    | array | record =>
      obtain ⟨hBranch, -⟩ := held_of_lookup hBelow
      cases List.mem_singleton.mp hBranch
      dsimp only
      rw [decodeField_blames (replaced_of_plant_one rfl hx hPlant).found hBad]
      rfl
    | query =>
      obtain ⟨hBranch, hFollow⟩ := held_of_lookup hBelow
      obtain ⟨parameters, hParameters, hOk⟩ := exists_of_bind_ok hOk
      obtain ⟨output, hOutput, hOk⟩ := exists_of_bind_ok hOk
      dsimp only
      simp only [Kind.branches, List.mem_cons, List.not_mem_nil, or_false] at hBranch
      rcases hBranch with rfl | rfl
      · rw [decodeField_blames (replaced_of_plant_one rfl hx hPlant).found hBad]
        rfl
      · obtain ⟨inner, hInner, -⟩ := exists_of_follow_two hFollow
        rw [decodeField_congr (hOthers "parameters" (by decide)), hParameters, ok_bind,
          decodeBody_blames hx hOutput hInner (replaced_of_plant_two rfl hInner hPlant) hBad]
        rfl
    | procedure =>
      obtain ⟨hBranch, hFollow⟩ := held_of_lookup hBelow
      obtain ⟨parameters, hParameters, hOk⟩ := exists_of_bind_ok hOk
      obtain ⟨input, hInput, hOk⟩ := exists_of_bind_ok hOk
      obtain ⟨output, hOutput, hOk⟩ := exists_of_bind_ok hOk
      dsimp only
      simp only [Kind.branches, List.mem_cons, List.not_mem_nil, or_false] at hBranch
      rcases hBranch with rfl | rfl | rfl
      · rw [decodeField_blames (replaced_of_plant_one rfl hx hPlant).found hBad]
        rfl
      · obtain ⟨inner, hInner, -⟩ := exists_of_follow_two hFollow
        rw [decodeField_congr (hOthers "parameters" (by decide)), hParameters, ok_bind,
          decodeBody_blames hx hInput hInner (replaced_of_plant_two rfl hInner hPlant) hBad]
        rfl
      · obtain ⟨inner, hInner, -⟩ := exists_of_follow_two hFollow
        rw [decodeField_congr (hOthers "parameters" (by decide)), hParameters, ok_bind,
          decodeBody_congr (hOthers "input" (by decide)), hInput, ok_bind,
          decodeBody_blames hx hOutput hInner (replaced_of_plant_two rfl hInner hPlant) hBad]
        rfl
    | subscription =>
      obtain ⟨hBranch, hFollow⟩ := held_of_lookup hBelow
      obtain ⟨message, hMessage, hOk⟩ := exists_of_bind_ok hOk
      obtain ⟨parameters, hParameters, hOk⟩ := exists_of_bind_ok hOk
      dsimp only
      simp only [Kind.branches, List.mem_cons, List.not_mem_nil, or_false] at hBranch
      rcases hBranch with rfl | rfl
      · rw [decodeMessage_congr (hOthers "message" (by decide)), hMessage, ok_bind,
          decodeField_blames (replaced_of_plant_one rfl hx hPlant).found hBad]
        rfl
      · obtain ⟨inner, hInner, -⟩ := exists_of_follow_two hFollow
        rw [decodeMessage_blames hx (replaced_of_plant_two rfl hInner hPlant) hBad]
        rfl
    | _ => cases hBelow
  | _ => cases hBelow

-- ---------------------------------------------------------------------------
-- Positions
-- ---------------------------------------------------------------------------

theorem follow_of_lookup {v w : Value} {branch : Branch}
    (h : (valuesBelow v).lookup branch = some w) : follow branch.keys v = some w := by
  rw [valuesBelow] at h
  have hProperty : ∀ {v : Value}, (propertiesOf v).lookup branch = some w →
      follow branch.keys v = some w := by
    intro v hLookup
    cases v with
    | mapping fields =>
      obtain ⟨name, entries, rfl, hEntries, hEntry⟩ := property_of_lookup hLookup
      rw [Branch.keys, follow, hEntries, Option.bind_some, follow_key]
      exact hEntry
    | _ => cases hLookup
  split at h
  · cases h
  · exact hProperty h
  · exact hProperty h
  · exact (held_of_lookup h).2

/-- Planting far below is planting what the change makes of something nearer. -/
theorem plant_append {x v u : Value} {keys : List String} (h : follow keys v = some u)
    (rest : List String) : plant x (keys ++ rest) v = plant (plant x rest u) keys v := by
  induction keys generalizing v with
  | nil =>
    cases h
    rfl
  | cons key others ih =>
    cases v with
    | mapping fields =>
      obtain ⟨t, hKey, hRest⟩ := Option.bind_eq_some_iff.mp h
      rw [List.cons_append, plant, plant, hKey, Option.getD_some, ih hRest]
    | _ => cases h

theorem plant_ne_null {x v : Value} (hx : x ≠ .null) (hv : v ≠ .null) (keys : List String) :
    plant x keys v ≠ .null := by
  cases keys with
  | nil => exact hx
  | cons key rest =>
    cases v with
    | null => exact (hv rfl).elim
    | _ => simp [plant]

theorem ne_null_of_decode {path : Path} {v : Value} {node : Node}
    (h : Node.decode path v = .ok node) : v ≠ .null := by
  rintro rfl
  rw [Node.decode] at h
  · cases h
  · simp

theorem exists_decode_of_lookup {path : Path} {v u : Value} {node : Node} {branch : Branch}
    (hOk : Node.decode path v = .ok node) (h : (valuesBelow v).lookup branch = some u) :
    ∃ inner, Node.decode (path.along branch.keys) u = .ok inner := by
  obtain ⟨i, hi, hEntry⟩ := List.mem_iff_getElem.mp (mem_of_lookup h)
  have hBelow := decoded_below hOk
  have hLength : i < (nodesBelow node).length := by rwa [hBelow.length_eq]
  have hMatches := hBelow.get hLength hi
  rw [List.get_eq_getElem, List.get_eq_getElem, hEntry] at hMatches
  exact ⟨_, hMatches.decoded⟩

/-- **A node blames every node below it**, at whatever position, by induction on the position. -/
theorem decode_blames_position {position : Position} {path : Path} {v w x : Value} {node : Node}
    {e : DecodeError} (hOk : Node.decode path v = .ok node)
    (hPosition : descend? position v = some w) (hx : x ≠ .null)
    (hBad : Node.decode (path.along (keysOf position)) x = .error e) :
    Node.decode path (plant x (keysOf position) v) = .error e := by
  induction position generalizing path v node with
  | nil => exact hBad
  | cons branch rest ih =>
    obtain ⟨u, hBranch, hRest⟩ := Option.bind_eq_some_iff.mp hPosition
    obtain ⟨inner, hInner⟩ := exists_decode_of_lookup hOk hBranch
    have hKeys : keysOf (branch :: rest) = branch.keys ++ keysOf rest := List.flatMap_cons
    rw [hKeys] at hBad ⊢
    rw [Path.along, List.foldl_append] at hBad
    rw [plant_append (follow_of_lookup hBranch)]
    exact decode_blames hOk hBranch (plant_ne_null hx (ne_null_of_decode hInner) _)
      (ih hInner hRest hBad)

-- ---------------------------------------------------------------------------
-- Documents
-- ---------------------------------------------------------------------------

theorem decodeEntries_of_lookup {path : Path} {entries : Fields} {nodes : List (String × Node)}
    {name : String} {w : Value} (hOk : decodeEntries path entries = .ok nodes)
    (hName : entries.lookup name = some w) : ∃ node, Node.decode (path.child name) w = .ok node := by
  induction entries generalizing nodes with
  | nil => cases hName
  | cons entry rest ih =>
    obtain ⟨k, v⟩ := entry
    rw [decodeEntries] at hOk
    obtain ⟨node, hNode, hOk⟩ := exists_of_bind_ok hOk
    obtain ⟨others, hOthers, -⟩ := exists_of_bind_ok hOk
    rw [List.lookup_cons] at hName
    split at hName
    · rename_i hKey
      cases eq_of_beq hKey
      cases hName
      exact ⟨node, hNode⟩
    · exact ih hOthers hName

/-- The path of a definition. -/
def definitionPath (name : String) : Path := Path.along "" ["defs", name]

/-- **A document blames its definitions**, and decodes each of them. -/
theorem document_blames {v d : Value} {document : Document} {name : String}
    (hOk : Document.ofValue v = .ok document) (hName : follow ["defs", name] v = some d) :
    (∃ node, Node.decode (definitionPath name) d = .ok node) ∧
      ∀ x e, Node.decode (definitionPath name) x = .error e →
        Document.ofValue (plant x ["defs", name] v) = .error e := by
  cases v with
  | mapping fields =>
    obtain ⟨entries, hEntries, hEntry⟩ := exists_of_follow_two hName
    have hDefs : Fields.present? fields "defs" = some (.mapping entries) := by
      rw [Fields.present?, hEntries]
    have hObject : ∀ inner : Fields, Reader.object.check "" (.mapping inner) = .ok inner :=
      fun _ => rfl
    rw [Document.ofValue, hObject, ok_bind, hDefs] at hOk
    obtain ⟨lexicon, hLexicon, hOk⟩ := exists_of_bind_ok hOk
    obtain ⟨id, hId, hOk⟩ := exists_of_bind_ok hOk
    obtain ⟨revision, hRevision, hOk⟩ := exists_of_bind_ok hOk
    obtain ⟨description, hDescription, hOk⟩ := exists_of_bind_ok hOk
    obtain ⟨definitions, hDefinitions, -⟩ := exists_of_bind_ok hOk
    refine ⟨?_, ?_⟩
    · rw [decodeProperties_eq, hDefs] at hDefinitions
      exact decodeEntries_of_lookup hDefinitions hEntry
    · intro x e hBad
      obtain ⟨changed, hPlant⟩ : ∃ changed : Fields,
          plant x ["defs", name] (.mapping fields) = .mapping changed := ⟨_, rfl⟩
      have hReplaced : Replaced "defs" (.mapping (Fields.put name x entries)) fields changed := by
        rw [plant, hEntries] at hPlant
        cases hPlant
        exact replaced_put fields "defs" (by simp)
      rw [hPlant, Document.ofValue, hObject, ok_bind, hReplaced.found]
      dsimp only [Option.isNone_some]
      rw [required_congr .integer (hReplaced.others "lexicon" (by decide)),
        required_congr .string (hReplaced.others "id" (by decide)),
        optional_congr _ (hReplaced.others "revision" (by decide)),
        optional_congr .string (hReplaced.others "description" (by decide)),
        hLexicon, hId, hRevision, hDescription]
      show (decodeProperties "defs" "" changed >>= _) = _
      rw [decodeProperties_blames hDefinitions hEntries hEntry hReplaced hBad]
      rfl
  | _ => cases hName

/-- A path that is not empty grows to a dotted list. -/
theorem along_eq_intercalate {path : Path} (hPath : path ≠ "") (keys : List String) :
    path.along keys = ".".intercalate (path :: keys) := by
  induction keys generalizing path with
  | nil => rfl
  | cons key rest ih =>
    have hChild : path.child key = path ++ "." ++ key := if_neg hPath
    have hNext : path ++ "." ++ key ≠ "" := by simp
    show (path.child key).along rest = _
    rw [hChild, ih hNext, String.intercalate_cons_append, String.intercalate_cons_cons]

/-- `Holds payload v`: the payload is the value, or a text of it. A text that is given as a value
is read as well. -/
inductive Payload.Holds : Payload → Value → Prop
  | value {v : Value} (hNoText : ∀ s, v ≠ .text s) : Holds (.value v) v
  | word {s : String} {v : Value} (hRead : Json.read s = .ok v) : Holds (.value (.text s)) v
  | text {s : String} {v : Value} (hRead : Json.read s = .ok v) : Holds (.text s) v
  | bytes {b : List UInt8} {chars : List Char} {v : Value}
      (hChars : Encoding.decodeJson b = .ok chars)
      (hRead : Json.readText (String.ofList chars) = .ok v) : Holds (.bytes b) v

theorem Payload.Holds.decode {payload : Payload} {v : Value} (h : payload.Holds v) :
    Document.decode payload = Document.ofValue v := by
  cases h with
  | value hNoText =>
    cases v with
    | text s => exact (hNoText s rfl).elim
    | _ => rfl
  | word hRead => rw [Document.decode, Document.ofText, hRead]
  | text hRead => rw [Document.decode, Document.ofText, hRead]
  | bytes hChars hRead =>
    rw [Document.decode, Document.ofBytes, hChars]
    dsimp only
    rw [hRead]

/-- What lies at a position in a definition of a document. -/
def nodeAt? (name : String) (position : Position) (v : Value) : Option Value :=
  (follow ["defs", name] v).bind (descend? position)

/-- The keys that lead to a position in a definition. -/
def placeOf (name : String) (position : Position) : List String :=
  "defs" :: name :: keysOf position

/-- The dotted path of a position in a definition. -/
def pathOf (name : String) (position : Position) : Path := ".".intercalate (placeOf name position)

theorem pathOf_ne_empty (name : String) (position : Position) : pathOf name position ≠ "" := by
  rw [pathOf, placeOf, String.intercalate_cons_cons]
  simp

theorem pathOf_eq_along (name : String) (position : Position) :
    pathOf name position = (definitionPath name).along (keysOf position) := by
  have hDefs : ("defs" : Path) ≠ "" := by decide
  exact (along_eq_intercalate hDefs (name :: keysOf position)).symm

/-- **Errors are local.** In a document that can be decoded, put anything but null in the place of
the node at some position. If what is put there cannot be decoded as a node, the document cannot be
decoded any more. Its error says what the error of the new value alone says, and the path of the
error is the dotted path of the position, extended by the path of that error. -/
theorem decode_error_local {payload changed : Payload} {v w x : Value} {document : Document}
    {name : String} {position : Position} {e : DecodeError} (hPayload : payload.Holds v)
    (hDocument : Document.decode payload = .ok document) (hNode : nodeAt? name position v = some w)
    (hx : x ≠ .null) (hBad : Node.decode "" x = .error e)
    (hChanged : changed.Holds (plant x (placeOf name position) v)) :
    Document.decode changed = .error (e.under (pathOf name position)) ∧
      (e.under (pathOf name position)).message =
        (pathOf name position).under e.path ++ ": " ++ e.fault.message := by
  rw [hPayload.decode] at hDocument
  obtain ⟨d, hName, hPosition⟩ := Option.bind_eq_some_iff.mp hNode
  obtain ⟨⟨node, hDefinition⟩, hBlames⟩ := document_blames hDocument hName
  have hNonempty := pathOf_ne_empty name position
  -- the value comes to the same at its position as alone
  have hAlone : pathOf name position = (pathOf name position).under "" := (if_pos rfl).symm
  have hThere : Node.decode (pathOf name position) x = .error (e.under (pathOf name position)) := by
    have hMoved := decode_moved hNonempty x hAlone
    rw [Moved, hBad] at hMoved
    exact hMoved
  rw [pathOf_eq_along] at hThere
  have hDefinition := decode_blames_position hDefinition hPosition hx hThere
  rw [← pathOf_eq_along] at hDefinition
  have hPlant : plant x (placeOf name position) v =
      plant (plant x (keysOf position) d) ["defs", name] v := plant_append hName _
  refine ⟨?_, ?_⟩
  · rw [hChanged.decode, hPlant]
    exact hBlames _ _ hDefinition
  · have hPath : (e.under (pathOf name position)).path ≠ "" := by
      show (pathOf name position).under e.path ≠ ""
      rw [Path.under]
      split
      · exact hNonempty
      · simp
    exact if_neg hPath

/-- A fault in the items of a property of what a query gives. -/
theorem decode_error_local_items :
    let shape (items : Value) : Value := .mapping
      [("lexicon", .int 1), ("id", .text "a.b"),
        ("defs", .mapping [("main", .mapping [("type", .text "query"),
          ("output", .mapping [("encoding", .text "application/json"),
            ("schema", .mapping [("type", .text "object"),
              ("properties", .mapping [("tags", .mapping [("type", .text "array"),
                ("items", items)])])])])])])]
    let good : Value := .mapping [("type", .text "string")]
    let bad : Value := .mapping [("type", .text "integer"), ("minimum", .text "x")]
    ∃ document e, Document.decode (.value (shape good)) = .ok document ∧
      Node.decode "" bad = .error e ∧ e.path = "minimum" ∧
      Document.decode (.value (shape bad)) =
        .error ⟨"defs.main.output.schema.properties.tags.items.minimum", e.fault⟩ := by
  intro shape good bad
  have hPath : pathOf "main" [.output, .property "tags", .items] =
      "defs.main.output.schema.properties.tags.items" := by decide
  obtain ⟨document, hDocument⟩ : ∃ document,
      Document.decode (.value (shape good)) = .ok document := ⟨_, rfl⟩
  obtain ⟨e, hBad, hAt⟩ : ∃ e, Node.decode "" bad = .error e ∧ e.path = "minimum" := ⟨_, rfl, rfl⟩
  have hHolds : ∀ items, Payload.Holds (.value (shape items)) (shape items) :=
    fun _ => .value (by simp [shape])
  have hNode : nodeAt? "main" [.output, .property "tags", .items] (shape good) = some good := rfl
  have hMoved := decode_error_local (hHolds _) hDocument hNode (by simp [bad]) hBad (hHolds bad)
  rw [hPath] at hMoved
  refine ⟨document, e, hDocument, hBad, hAt, ?_⟩
  rw [hMoved.1, DecodeError.under, hAt]
  rfl

end Lexicon.Schema
