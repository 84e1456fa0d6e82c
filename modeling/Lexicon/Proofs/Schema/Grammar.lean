import Lexicon.Proofs.Fallible
import Lexicon.Schema.Decode

/-!
# Lexicon — the grammar of documents

Which values are decoded, told without saying how: a table of rules for each part of a document,
and what it means to obey them. A field whose value is null counts as absent, a truth value is no
integer, and neither is a number with a fraction. Fields that hold no nodes are read exactly where
their rules are obeyed.

* `Form`, `Rule`, `Part` — what a field may hold, what is asked of a field, and the mappings that
                     documents are made of.
* `Kind.rules`, `Part.rules` — the grammar: the rules of each kind and of each part.
* `Fits`, `Obeys`  — a value has a form, and a mapping obeys a rule.
* `Decodes`        — a computation succeeds on the mappings that obey some rules.
* `optional_ok`, `required_ok`, `optionalList_ok`, `requiredList_ok` — one field of a form that is
                     read from single values.
* `decodeErrors_ok` — the errors of an endpoint.
-/

namespace Lexicon.Schema

-- ---------------------------------------------------------------------------
-- The grammar
-- ---------------------------------------------------------------------------

/-- The mappings that a document is made of. -/
inductive Part where
  | node (kind : Kind)
  | body | message | error | document

/-- What a field may hold. A `word` is one certain text, a `node` may be of any kind, and `nodes`
are a mapping from names to nodes. -/
inductive Form where
  | boolean | integer | string | revision
  | word (text : String)
  | list (item : Form)
  | node | nodes
  | part (p : Part)

/-- What is asked of a field. -/
structure Rule where
  key : String
  form : Form
  isRequired : Bool

/-- A field that may be absent. -/
def Rule.optional (key : String) (form : Form) : Rule := ⟨key, form, false⟩

/-- A field that must be there. -/
def Rule.required (key : String) (form : Form) : Rule := ⟨key, form, true⟩

/-- The bounds on a length. -/
def lengthRules : List Rule := [.optional "maxLength" .integer, .optional "minLength" .integer]

/-- The errors of an endpoint. -/
def errorsRule : Rule := .optional "errors" (.list (.part .error))

/-- The fields of each kind of node. -/
def Kind.rules : Kind → List Rule
  | boolean => [.optional "default" .boolean, .optional "const" .boolean]
  | integer =>
    [.optional "minimum" .integer, .optional "maximum" .integer, .optional "enum" (.list .integer),
     .optional "default" .integer, .optional "const" .integer]
  | string =>
    [.optional "format" .string, .optional "maxLength" .integer, .optional "minLength" .integer,
     .optional "maxGraphemes" .integer, .optional "minGraphemes" .integer,
     .optional "knownValues" (.list .string), .optional "enum" (.list .string),
     .optional "default" .string, .optional "const" .string]
  | bytes => lengthRules
  | blob => [.optional "accept" (.list .string), .optional "maxSize" .integer]
  | cidLink | unknown | null | token => []
  | array => .required "items" .node :: lengthRules
  | object =>
    [.optional "properties" .nodes, .optional "required" (.list .string),
     .optional "nullable" (.list .string)]
  | params => [.optional "properties" .nodes, .optional "required" (.list .string)]
  | record => [.required "record" (.part (.node .object)), .required "key" .string]
  | union => [.required "refs" (.list .string), .optional "closed" .boolean]
  | ref => [.required "ref" .string]
  | query => [.optional "parameters" .node, .optional "output" (.part .body), errorsRule]
  | procedure =>
    [.optional "parameters" .node, .optional "input" (.part .body),
     .optional "output" (.part .body), errorsRule]
  | subscription =>
    [.optional "message" (.part .message), .optional "parameters" .node, errorsRule]

/-- The fields of each part. -/
def Part.rules : Part → List Rule
  | node kind =>
    .required "type" (.word kind.name) :: .optional "description" .string :: kind.rules
  | body =>
    [.required "encoding" .string, .optional "schema" .node, .optional "description" .string]
  | message => [.required "schema" .node, .optional "description" .string]
  | error => [.required "name" .string, .optional "description" .string]
  | document =>
    [.required "lexicon" .integer, .required "id" .string, .optional "revision" .revision,
     .optional "description" .string, .required "defs" .nodes]

mutual

/-- `Fits form value`: the value has the form. -/
inductive Fits : Form → Value → Prop
  | boolean (b : Bool) : Fits .boolean (.bool b)
  | integer (n : Int) : Fits .integer (.int n)
  | string (s : String) : Fits .string (.text s)
  | number (n : Int) : Fits .revision (.int n)
  | label (s : String) : Fits .revision (.text s)
  | word (s : String) : Fits (.word s) (.text s)
  | list {item : Form} {items : List Value} (hItems : ∀ v ∈ items, Fits item v) :
      Fits (.list item) (.list items)
  | node {kind : Kind} {v : Value} (hKind : Fits (.part (.node kind)) v) : Fits .node v
  | nodes {entries : Fields} (hEntries : ∀ e ∈ entries, Fits .node e.2) :
      Fits .nodes (.mapping entries)
  | part {p : Part} {fields : Fields} (hRules : ∀ rule ∈ p.rules, Obeys rule fields) :
      Fits (.part p) (.mapping fields)

/-- `Obeys rule fields`: the field that the rule is about has its form, or may be absent and is. -/
inductive Obeys : Rule → Fields → Prop
  | absent {rule : Rule} {fields : Fields} (hOptional : rule.isRequired = false)
      (hAbsent : fields.present? rule.key = none) : Obeys rule fields
  | present {rule : Rule} {fields : Fields} {value : Value}
      (hValue : fields.present? rule.key = some value) (hFits : Fits rule.form value) :
      Obeys rule fields

end

theorem fits_part_iff {p : Part} {fields : Fields} :
    Fits (.part p) (.mapping fields) ↔ ∀ rule ∈ p.rules, Obeys rule fields := by
  constructor
  · intro h
    cases h with
    | part hRules => exact hRules
  · exact .part

theorem fits_list_iff {item : Form} {items : List Value} :
    Fits (.list item) (.list items) ↔ ∀ v ∈ items, Fits item v := by
  constructor
  · intro h
    cases h with
    | list hItems => exact hItems
  · exact .list

theorem fits_nodes_iff {entries : Fields} :
    Fits .nodes (.mapping entries) ↔ ∀ e ∈ entries, Fits .node e.2 := by
  constructor
  · intro h
    cases h with
    | nodes hEntries => exact hEntries
  · exact .nodes

theorem obeys_iff_of_absent {rule : Rule} {fields : Fields}
    (h : fields.present? rule.key = none) : Obeys rule fields ↔ rule.isRequired = false := by
  constructor
  · intro hObeys
    cases hObeys with
    | absent hOptional => exact hOptional
    | present hValue =>
      rw [h] at hValue
      cases hValue
  · intro hOptional
    exact .absent hOptional h

theorem obeys_iff_of_present {rule : Rule} {fields : Fields} {value : Value}
    (h : fields.present? rule.key = some value) : Obeys rule fields ↔ Fits rule.form value := by
  constructor
  · intro hObeys
    cases hObeys with
    | absent _ hAbsent =>
      rw [h] at hAbsent
      cases hAbsent
    | present hValue hFits =>
      rw [h] at hValue
      cases hValue
      exact hFits
  · exact .present h

theorem not_obeys_required {key : String} {form : Form} {fields : Fields}
    (h : fields.present? key = none) : ¬ Obeys (.required key form) fields := by
  intro hObeys
  cases (obeys_iff_of_absent h).mp hObeys

-- ---------------------------------------------------------------------------
-- Success
-- ---------------------------------------------------------------------------

/-- Does the computation succeed? -/
def Succeeds {α : Type} (x : Decoded α) : Prop := ∃ a, x = .ok a

theorem succeeds_ok {α : Type} (a : α) : Succeeds (.ok a) := ⟨a, rfl⟩

/-- What fails is right to do so where something false is asked for. -/
theorem succeeds_iff_of_error {α : Type} {x : Decoded α} {e : DecodeError} {p : Prop}
    (hx : x = .error e) (hp : ¬ p) : Succeeds x ↔ p := by
  refine iff_of_false ?_ hp
  rintro ⟨_, h⟩
  rw [hx] at h
  cases h

theorem succeeds_map {α β : Type} {f : α → β} {x : Decoded α} :
    Succeeds (f <$> x) ↔ Succeeds x := by
  cases x with
  | error e => exact ⟨fun ⟨_, h⟩ => (by cases h), fun ⟨_, h⟩ => (by cases h)⟩
  | ok a => exact ⟨fun _ => ⟨a, rfl⟩, fun _ => ⟨f a, rfl⟩⟩

/-- Two steps succeed if both do, and the second one does so whatever the first one returns. -/
theorem succeeds_bind {α β : Type} {x : Decoded α} {f : α → Decoded β} {p q : Prop}
    (hx : Succeeds x ↔ p) (hf : ∀ a, x = .ok a → (Succeeds (f a) ↔ q)) :
    Succeeds (x >>= f) ↔ p ∧ q := by
  cases x with
  | error e =>
    constructor
    · rintro ⟨_, h⟩
      cases h
    · rintro ⟨hp, -⟩
      obtain ⟨_, h⟩ := hx.mpr hp
      cases h
  | ok a =>
    have hp : p := hx.mp (succeeds_ok a)
    exact (hf a rfl).trans (and_iff_right hp).symm

/-- `Decodes x good rules fields`: the computation succeeds exactly if the mapping obeys the rules,
and what it returns is good. -/
structure Decodes {α : Type} (x : Decoded α) (good : α → Prop) (rules : List Rule)
    (fields : Fields) : Prop where
  accepts : Succeeds x ↔ ∀ rule ∈ rules, Obeys rule fields
  good : ∀ a, x = .ok a → good a

section Decodes

variable {α β : Type} {good : β → Prop} {rule : Rule} {rules rest : List Rule} {fields : Fields}

theorem Decodes.done {b : β} (h : good b) : Decodes (pure b) good [] fields where
  accepts := by
    constructor
    · intro _ rule hRule
      cases hRule
    · exact fun _ => succeeds_ok b
  good := by
    rintro _ hEq
    cases hEq
    exact h

/-- One step looks at one field, and the others at the remaining ones. -/
theorem Decodes.step {x : Decoded α} {f : α → Decoded β} (hx : Succeeds x ↔ Obeys rule fields)
    (hf : ∀ a, Decodes (f a) good rest fields) :
    Decodes (x >>= f) good (rule :: rest) fields where
  accepts := by
    rw [List.forall_mem_cons]
    exact succeeds_bind hx fun a _ => (hf a).accepts
  good := by
    intro b hb
    obtain ⟨a, -, hb⟩ := exists_of_bind_ok hb
    exact (hf a).good b hb

/-- What is made of a result is decoded where the result is. -/
theorem Decodes.map {x : Decoded α} {f : α → β} (hx : Decodes x (fun _ => True) rules fields)
    (hf : ∀ a, good (f a)) : Decodes (x >>= fun a => pure (f a)) good rules fields where
  accepts := (succeeds_map (f := f)).trans hx.accepts
  good := by
    intro b hb
    obtain ⟨a, -, hb⟩ := exists_of_bind_ok hb
    cases hb
    exact hf a

/-- A rule that is known to be obeyed asks for nothing. -/
theorem Decodes.obeyed {x : Decoded β} (hx : Decodes x good rules fields)
    (h : Obeys rule fields) : Decodes x good (rule :: rules) fields where
  accepts := by
    rw [List.forall_mem_cons, hx.accepts]
    exact (and_iff_right h).symm
  good := hx.good

end Decodes

-- ---------------------------------------------------------------------------
-- Scalars and lists
-- ---------------------------------------------------------------------------

/-- `Reads reader form`: the reader reads the values of the form. -/
def Reads {α : Type} (reader : Reader α) (form : Form) : Prop :=
  ∀ v, (∃ a, reader.read? v = some a) ↔ Fits form v

theorem reads_boolean : Reads .boolean .boolean := by
  intro v
  constructor
  · rintro ⟨_, h⟩
    cases v <;> cases h
    exact .boolean _
  · rintro ⟨b⟩
    exact ⟨b, rfl⟩

theorem reads_integer : Reads .integer .integer := by
  intro v
  constructor
  · rintro ⟨_, h⟩
    cases v <;> cases h
    exact .integer _
  · intro h
    cases h with
    | integer n => exact ⟨n, rfl⟩

theorem reads_string : Reads .string .string := by
  intro v
  constructor
  · rintro ⟨_, h⟩
    cases v <;> cases h
    exact .string _
  · intro h
    cases h with
    | string s => exact ⟨s, rfl⟩

theorem reads_revision : Reads Document.revisionReader .revision := by
  intro v
  constructor
  · rintro ⟨_, h⟩
    cases v <;> cases h
    · exact .number _
    · exact .label _
  · intro h
    cases h with
    | number n => exact ⟨.number n, rfl⟩
    | label s => exact ⟨.label s, rfl⟩

theorem check_ok {α : Type} (reader : Reader α) (path : Path) (v : Value) :
    Succeeds (reader.check path v) ↔ ∃ a, reader.read? v = some a := by
  rw [Reader.check]
  cases reader.read? v with
  | none => exact succeeds_iff_of_error rfl (by simp)
  | some a => simp [succeeds_ok]

section Readers

variable {α : Type} {reader : Reader α} {form : Form} (hReads : Reads reader form)
  (fields : Fields) (key : String) (path : Path)

include hReads

theorem optional_ok :
    Succeeds (reader.optional fields key path) ↔ Obeys (.optional key form) fields := by
  rw [Reader.optional]
  cases h : fields.present? key with
  | none => exact iff_of_true (succeeds_ok none) (.absent rfl h)
  | some v =>
    rw [obeys_iff_of_present h, succeeds_map, check_ok]
    exact hReads v

theorem required_ok :
    Succeeds (reader.required fields key path) ↔ Obeys (.required key form) fields := by
  rw [Reader.required]
  cases h : fields.present? key with
  | none => exact succeeds_iff_of_error rfl (not_obeys_required h)
  | some v =>
    rw [obeys_iff_of_present h, check_ok]
    exact hReads v

theorem items_ok (index : Nat) (items : List Value) :
    Succeeds (reader.items path index items) ↔ ∀ v ∈ items, Fits form v := by
  -- the index shows in the paths of errors only
  induction items generalizing index with
  | nil => simp [Reader.items, succeeds_ok]
  | cons v rest ih =>
    rw [Reader.items, List.forall_mem_cons]
    refine succeeds_bind ((check_ok ..).trans (hReads v)) fun a _ => ?_
    exact (succeeds_map (f := (a :: ·))).trans (ih (index + 1))

end Readers

section Lists

variable {β : Type} {item : Form} (fields : Fields) (key : String) (path : Path)

/-- What looks at the items of a list, and only at them, accepts the lists of its items. -/
theorem array_ok {f : List Value → Decoded β} (path : Path)
    (hf : ∀ items, Succeeds (f items) ↔ ∀ v ∈ items, Fits item v) (v : Value) :
    Succeeds (Reader.array.check path v >>= f) ↔ Fits (.list item) v := by
  cases v with
  | list items => exact (hf items).trans fits_list_iff.symm
  | _ => exact succeeds_iff_of_error rfl (fun h => by cases h)

theorem optionalArray_ok {f : Option (List Value) → Decoded β} (hNone : Succeeds (f none))
    (hSome : ∀ items, Succeeds (f (some items)) ↔ ∀ v ∈ items, Fits item v) :
    Succeeds (Reader.array.optional fields key path >>= f) ↔
      Obeys (.optional key (.list item)) fields := by
  rw [Reader.optional]
  cases h : fields.present? key with
  | none => exact iff_of_true hNone (.absent rfl h)
  | some v =>
    rw [obeys_iff_of_present h]
    show Succeeds ((some <$> Reader.array.check _ v) >>= f) ↔ _
    rw [map_eq_pure_bind, bind_assoc]
    exact array_ok _ hSome v

theorem requiredArray_ok {f : List Value → Decoded β}
    (hf : ∀ items, Succeeds (f items) ↔ ∀ v ∈ items, Fits item v) :
    Succeeds (Reader.array.required fields key path >>= f) ↔
      Obeys (.required key (.list item)) fields := by
  rw [Reader.required]
  cases h : fields.present? key with
  | none => exact succeeds_iff_of_error rfl (not_obeys_required h)
  | some v =>
    rw [obeys_iff_of_present h]
    exact array_ok _ hf v

end Lists

section Readers

variable {α : Type} {reader : Reader α} {form : Form} (hReads : Reads reader form)
  (fields : Fields) (key : String) (path : Path)

include hReads

theorem optionalList_ok :
    Succeeds (reader.optionalList fields key path) ↔
      Obeys (.optional key (.list form)) fields := by
  refine optionalArray_ok fields key path (succeeds_ok none) fun items => ?_
  exact succeeds_map.trans (items_ok hReads _ 0 items)

theorem listOrEmpty_ok :
    Succeeds (reader.listOrEmpty fields key path) ↔
      Obeys (.optional key (.list form)) fields :=
  succeeds_map.trans (optionalList_ok hReads fields key path)

theorem requiredList_ok :
    Succeeds (reader.requiredList fields key path) ↔
      Obeys (.required key (.list form)) fields :=
  requiredArray_ok fields key path fun items => items_ok hReads _ 0 items

end Readers

-- ---------------------------------------------------------------------------
-- Leaves
-- ---------------------------------------------------------------------------

theorem lengthRules_decodes (fields : Fields) (path : Path) :
    Decodes (LengthRules.decode fields path) (fun _ => True) lengthRules fields :=
  .step (optional_ok reads_integer ..) fun _ => .step (optional_ok reads_integer ..) fun _ =>
    .done trivial

theorem booleanRules_decodes (fields : Fields) (path : Path) :
    Decodes (BooleanRules.decode fields path) (fun _ => True) Kind.boolean.rules fields :=
  .step (optional_ok reads_boolean ..) fun _ => .step (optional_ok reads_boolean ..) fun _ =>
    .done trivial

theorem integerRules_decodes (fields : Fields) (path : Path) :
    Decodes (IntegerRules.decode fields path) (fun _ => True) Kind.integer.rules fields := by
  refine .step (optional_ok reads_integer ..) fun _ => ?_
  refine .step (optional_ok reads_integer ..) fun _ => ?_
  refine .step (optionalList_ok reads_integer ..) fun _ => ?_
  refine .step (optional_ok reads_integer ..) fun _ => ?_
  refine .step (optional_ok reads_integer ..) fun _ => ?_
  exact .done trivial

theorem stringRules_decodes (fields : Fields) (path : Path) :
    Decodes (StringRules.decode fields path) (fun _ => True) Kind.string.rules fields := by
  refine .step (optional_ok reads_string ..) fun _ => ?_
  refine .step (optional_ok reads_integer ..) fun _ => ?_
  refine .step (optional_ok reads_integer ..) fun _ => ?_
  refine .step (optional_ok reads_integer ..) fun _ => ?_
  refine .step (optional_ok reads_integer ..) fun _ => ?_
  refine .step (optionalList_ok reads_string ..) fun _ => ?_
  refine .step (optionalList_ok reads_string ..) fun _ => ?_
  refine .step (optional_ok reads_string ..) fun _ => ?_
  refine .step (optional_ok reads_string ..) fun _ => ?_
  exact .done trivial

theorem errorVariant_ok (path : Path) (v : Value) :
    Succeeds (ErrorVariant.decode path v) ↔ Fits (.part .error) v := by
  cases v with
  | mapping fields =>
    have hDecodes : Decodes (do
        let name ← Reader.string.required fields "name" path
        let description ← Reader.string.optional fields "description" path
        return ErrorVariant.mk name description) (fun _ => True) Part.error.rules fields :=
      .step (required_ok reads_string ..) fun _ => .step (optional_ok reads_string ..) fun _ =>
        .done trivial
    exact hDecodes.accepts.trans fits_part_iff.symm
  | _ => exact succeeds_iff_of_error rfl (fun h => by cases h)

theorem decodeVariants_ok (path : Path) (index : Nat) (items : List Value) :
    Succeeds (decodeVariants path index items) ↔ ∀ v ∈ items, Fits (.part .error) v := by
  induction items generalizing index with
  | nil => simp [decodeVariants, succeeds_ok]
  | cons v rest ih =>
    rw [decodeVariants, List.forall_mem_cons]
    refine succeeds_bind (errorVariant_ok ..) fun variant _ => ?_
    exact (succeeds_map (f := (variant :: ·))).trans (ih (index + 1))

theorem decodeErrors_ok (fields : Fields) (path : Path) :
    Succeeds (decodeErrors fields path) ↔ Obeys errorsRule fields :=
  optionalArray_ok fields "errors" path (succeeds_ok []) fun items => decodeVariants_ok _ 0 items

end Lexicon.Schema
