import Mathlib.Logic.Relation
import Lexicon.Proofs.Schema.Locality

/-!
# Lexicon — what the decoder does not look at

The decoder looks up the fields that the grammar names, and takes a field that is null for one that
is absent. So a null may be taken out of any object that it reads, and whatever the grammar does not
name may be put into it, at every depth: the document that is decoded stays the same, and so does
the error if there is none. Nothing is assumed of the value, which may be at fault in any place.

* `rulesFor?`      — the rules by which an object is read where one of some form is asked for.
* `Edited`         — one such change, of an object or of anything below it.
* `DecodesAlike`   — the decoder makes the same of two values; `ReadsAlike` says so of one field.
* `decode_alike`, `ofValue_alike` — objects whose fields are read alike are decoded alike.
* `Edited.alike`   — a change makes no difference, by induction on how deep it lies.
* `decode_edited`  — neither do any number of changes to a document.

The names in a mapping from names to nodes are no fields, and neither are the items of a list: a
null is a fault there, so only what lies below them may change.
-/

namespace Lexicon.Schema

-- ---------------------------------------------------------------------------
-- Changes
-- ---------------------------------------------------------------------------

/-- The rules by which an object is read where one of some form is asked for. A node says itself of
which kind it is; of one that does not, nothing but its type is read. -/
def rulesFor? (fields : Fields) : Form → Option (List Rule)
  | .node | .part (.node _) =>
    match kindOf? (.mapping fields) with
    | some kind => some (Part.node kind).rules
    | none => some [.required "type" .string]
  | .part p => some p.rules
  | _ => none

/-- `Edited form v w`: where the form is asked for, a null was taken out of an object, or a field
was put into one that no rule names; or the like was done to what a field, a name or a list of
errors leads to. -/
inductive Edited : Form → Value → Value → Prop
  | drop {form : Form} {fields : Fields} {rules : List Rule} {key : String}
      (hObject : rulesFor? fields form = some rules) (hNull : fields.lookup key = some .null) :
      Edited form (.mapping fields) (.mapping (fields.filter fun e => e.1 != key))
  | add {form : Form} {before after : Fields} {rules : List Rule} {key : String} {value : Value}
      (hObject : rulesFor? (before ++ after) form = some rules)
      (hUnread : key ∉ rules.map Rule.key) :
      Edited form (.mapping (before ++ after)) (.mapping (before ++ (key, value) :: after))
  | field {form : Form} {before after : Fields} {rules : List Rule} {rule : Rule} {v w : Value}
      (hObject : rulesFor? (before ++ (rule.key, v) :: after) form = some rules)
      (hRule : rule ∈ rules) (hBelow : Edited rule.form v w) :
      Edited form (.mapping (before ++ (rule.key, v) :: after))
        (.mapping (before ++ (rule.key, w) :: after))
  | entry {before after : Fields} {name : String} {v w : Value} (hBelow : Edited .node v w) :
      Edited .nodes (.mapping (before ++ (name, v) :: after))
        (.mapping (before ++ (name, w) :: after))
  | error {before after : List Value} {v w : Value} (hBelow : Edited (.part .error) v w) :
      Edited (.list (.part .error)) (.list (before ++ v :: after)) (.list (before ++ w :: after))

/-- What is changed is an object or a list, and stays one. -/
theorem Edited.ne_null {form : Form} {v w : Value} (h : Edited form v w) :
    v ≠ .null ∧ w ≠ .null := by
  cases h <;> simp

-- ---------------------------------------------------------------------------
-- Looking fields up
-- ---------------------------------------------------------------------------

theorem present?_of_ne_null {v : Value} (h : v ≠ .null) (key : String) (rest : Fields) :
    Fields.present? ((key, v) :: rest) key = some v := by
  rw [present?_cons, if_pos rfl]
  cases v with
  | null => exact (h rfl).elim
  | _ => rfl

/-- A null that is taken out was absent before. -/
theorem present?_filter {fields : Fields} {key : String} (hNull : fields.lookup key = some .null)
    (k : String) : Fields.present? (fields.filter fun e => e.1 != key) k = fields.present? k := by
  rw [Fields.present?, Fields.present?, lookup_filter (· != key)]
  by_cases h : k = key
  · subst h
    simp [hNull]
  · simp [h]

/-- What is found behind other entries does not depend on the entries of other keys between. -/
theorem present?_insert (before after : Fields) {key k : String} (value : Value) (h : k ≠ key) :
    Fields.present? (before ++ (key, value) :: after) k = Fields.present? (before ++ after) k := by
  rw [Fields.present?, Fields.present?, lookup_append_cons_ne h]

/-- An entry that is replaced is read, or hidden by one before it. -/
theorem present?_replace (before after : Fields) (key : String) {v w : Value} (hv : v ≠ .null)
    (hw : w ≠ .null) :
    Fields.present? (before ++ (key, w) :: after) key =
        Fields.present? (before ++ (key, v) :: after) key ∨
      Fields.present? (before ++ (key, v) :: after) key = some v ∧
        Fields.present? (before ++ (key, w) :: after) key = some w := by
  induction before with
  | nil => exact .inr ⟨present?_of_ne_null hv .., present?_of_ne_null hw ..⟩
  | cons e rest ih =>
    obtain ⟨k, x⟩ := e
    rw [List.cons_append, List.cons_append, present?_cons, present?_cons]
    by_cases h : k = key
    · exact .inl (by rw [if_pos h, if_pos h])
    · rwa [if_neg h, if_neg h]

-- ---------------------------------------------------------------------------
-- Alike values
-- ---------------------------------------------------------------------------

/-- `DecodesAlike form v w`: where the form is asked for, the decoder makes the same of both
values. What holds neither nodes nor other objects has to be equal. -/
def DecodesAlike : Form → Value → Value → Prop
  | .node | .part (.node _) => fun v w => ∀ path, Node.decode path w = Node.decode path v
  | .nodes => fun v w => ∀ key path,
      decodeProperties key path [(key, w)] = decodeProperties key path [(key, v)]
  | .part .body => fun v w => ∀ key path,
      decodeBody key path [(key, w)] = decodeBody key path [(key, v)]
  | .part .message => fun v w => ∀ key path,
      decodeMessage key path [(key, w)] = decodeMessage key path [(key, v)]
  | .part .error => fun v w => ∀ path, ErrorVariant.decode path w = ErrorVariant.decode path v
  | .part .document => fun v w => Document.ofValue w = Document.ofValue v
  | .list (.part .error) => fun v w => ∀ path,
      decodeErrors [("errors", w)] path = decodeErrors [("errors", v)] path
  | _ => Eq

/-- `ReadsAlike rule fields changed`: the decoder makes the same of the field that the rule is
about. -/
inductive ReadsAlike (rule : Rule) (fields changed : Fields) : Prop
  | same (hSame : changed.present? rule.key = fields.present? rule.key)
  | below {v w : Value} (hv : fields.present? rule.key = some v)
      (hw : changed.present? rule.key = some w) (hAlike : DecodesAlike rule.form v w)

section Readers

variable {α : Type} {fields changed : Fields} {key : String} {form : Form} {isRequired : Bool}

/-- A field of plain values is the same. -/
theorem ReadsAlike.plain (h : ReadsAlike ⟨key, form, isRequired⟩ fields changed)
    (hPlain : DecodesAlike form = Eq) : changed.present? key = fields.present? key := by
  cases h with
  | same hSame => exact hSame
  | below hv hw hAlike =>
    rw [hPlain] at hAlike
    subst hAlike
    exact hw.trans hv.symm

theorem optionalList_congr (reader : Reader α)
    (h : changed.present? key = fields.present? key) (path : Path) :
    reader.optionalList changed key path = reader.optionalList fields key path := by
  rw [Reader.optionalList, Reader.optionalList, optional_congr .array h]

theorem listOrEmpty_congr (reader : Reader α)
    (h : changed.present? key = fields.present? key) (path : Path) :
    reader.listOrEmpty changed key path = reader.listOrEmpty fields key path := by
  rw [Reader.listOrEmpty, Reader.listOrEmpty, optionalList_congr reader h]

theorem requiredList_congr (reader : Reader α)
    (h : changed.present? key = fields.present? key) (path : Path) :
    reader.requiredList changed key path = reader.requiredList fields key path := by
  rw [Reader.requiredList, Reader.requiredList, required_congr .array h]

theorem decodeProperties_congr (h : changed.present? key = fields.present? key) (path : Path) :
    decodeProperties key path changed = decodeProperties key path fields := by
  rw [decodeProperties_eq, decodeProperties_eq, h]

theorem decodeErrors_congr (h : changed.present? "errors" = fields.present? "errors")
    (path : Path) : decodeErrors changed path = decodeErrors fields path := by
  rw [decodeErrors, decodeErrors, optional_congr .array h]

/-- A field is read as if it were the only one. -/
theorem present?_single {v : Value} (h : fields.present? key = some v) :
    fields.present? key = Fields.present? [(key, v)] key := by
  have hValue : v ≠ .null := by
    rintro rfl
    rw [Fields.present?] at h
    split at h <;> simp_all
  rw [h, present?_of_ne_null hValue]

/-- The object in a record is read as any other node. -/
theorem decodeField_alike (h : ReadsAlike ⟨key, form, isRequired⟩ fields changed)
    (hNode : DecodesAlike form = DecodesAlike .node) (path : Path) :
    decodeField key path changed = decodeField key path fields := by
  cases h with
  | same hSame => exact decodeField_congr hSame
  | below hv hw hAlike =>
    rw [hNode] at hAlike
    rw [decodeField_eq, decodeField_eq, hv, hw]
    dsimp only
    rw [hAlike]

theorem decodeProperties_alike (h : ReadsAlike ⟨key, .nodes, isRequired⟩ fields changed)
    (path : Path) : decodeProperties key path changed = decodeProperties key path fields := by
  cases h with
  | same hSame => exact decodeProperties_congr hSame path
  | below hv hw hAlike =>
    rw [decodeProperties_congr (present?_single hw), decodeProperties_congr (present?_single hv)]
    exact hAlike key path

theorem decodeBody_alike (h : ReadsAlike ⟨key, .part .body, isRequired⟩ fields changed)
    (path : Path) : decodeBody key path changed = decodeBody key path fields := by
  cases h with
  | same hSame => exact decodeBody_congr hSame
  | below hv hw hAlike =>
    rw [decodeBody_congr (present?_single hw), decodeBody_congr (present?_single hv)]
    exact hAlike key path

theorem decodeMessage_alike (h : ReadsAlike ⟨key, .part .message, isRequired⟩ fields changed)
    (path : Path) : decodeMessage key path changed = decodeMessage key path fields := by
  cases h with
  | same hSame => exact decodeMessage_congr hSame
  | below hv hw hAlike =>
    rw [decodeMessage_congr (present?_single hw), decodeMessage_congr (present?_single hv)]
    exact hAlike key path

theorem decodeErrors_alike (h : ReadsAlike errorsRule fields changed) (path : Path) :
    decodeErrors changed path = decodeErrors fields path := by
  cases h with
  | same hSame => exact decodeErrors_congr hSame path
  | below hv hw hAlike =>
    rw [decodeErrors_congr (present?_single hw), decodeErrors_congr (present?_single hv)]
    exact hAlike path

end Readers

-- ---------------------------------------------------------------------------
-- Alike objects
-- ---------------------------------------------------------------------------

section Leaves

variable {fields changed : Fields}

theorem lengthRules_congr (h : ∀ rule ∈ lengthRules, ReadsAlike rule fields changed) (path : Path) :
    LengthRules.decode changed path = LengthRules.decode fields path := by
  simp only [lengthRules, List.forall_mem_cons] at h
  obtain ⟨hMaxLength, hMinLength, -⟩ := h
  rw [LengthRules.decode, LengthRules.decode, optional_congr .integer (hMaxLength.plain rfl),
    optional_congr .integer (hMinLength.plain rfl)]

theorem booleanRules_congr (h : ∀ rule ∈ Kind.boolean.rules, ReadsAlike rule fields changed)
    (path : Path) : BooleanRules.decode changed path = BooleanRules.decode fields path := by
  simp only [Kind.rules, List.forall_mem_cons] at h
  obtain ⟨hDefault, hConst, -⟩ := h
  rw [BooleanRules.decode, BooleanRules.decode, optional_congr .boolean (hDefault.plain rfl),
    optional_congr .boolean (hConst.plain rfl)]

theorem integerRules_congr (h : ∀ rule ∈ Kind.integer.rules, ReadsAlike rule fields changed)
    (path : Path) : IntegerRules.decode changed path = IntegerRules.decode fields path := by
  simp only [Kind.rules, List.forall_mem_cons] at h
  obtain ⟨hMinimum, hMaximum, hEnum, hDefault, hConst, -⟩ := h
  rw [IntegerRules.decode, IntegerRules.decode, optional_congr .integer (hMinimum.plain rfl),
    optional_congr .integer (hMaximum.plain rfl), optionalList_congr .integer (hEnum.plain rfl),
    optional_congr .integer (hDefault.plain rfl), optional_congr .integer (hConst.plain rfl)]

theorem stringRules_congr (h : ∀ rule ∈ Kind.string.rules, ReadsAlike rule fields changed)
    (path : Path) : StringRules.decode changed path = StringRules.decode fields path := by
  simp only [Kind.rules, List.forall_mem_cons] at h
  obtain ⟨hFormat, hMaxLength, hMinLength, hMaxGraphemes, hMinGraphemes, hKnown, hEnum, hDefault,
    hConst, -⟩ := h
  rw [StringRules.decode, StringRules.decode, optional_congr .string (hFormat.plain rfl),
    optional_congr .integer (hMaxLength.plain rfl), optional_congr .integer (hMinLength.plain rfl),
    optional_congr .integer (hMaxGraphemes.plain rfl),
    optional_congr .integer (hMinGraphemes.plain rfl),
    optionalList_congr .string (hKnown.plain rfl), optionalList_congr .string (hEnum.plain rfl),
    optional_congr .string (hDefault.plain rfl), optional_congr .string (hConst.plain rfl)]

end Leaves

section Objects

variable {fields changed : Fields}

/-- **Nodes whose fields are read alike are decoded alike**, kind by kind. -/
theorem decode_alike {rules : List Rule} (hObject : rulesFor? fields .node = some rules)
    (hRules : ∀ rule ∈ rules, ReadsAlike rule fields changed) (path : Path) :
    Node.decode path (.mapping changed) = Node.decode path (.mapping fields) := by
  have hType : changed.present? "type" = fields.present? "type" := by
    rw [rulesFor?] at hObject
    split at hObject
    · cases hObject
      exact (hRules _ (List.mem_cons_self ..)).plain rfl
    · cases hObject
      exact (hRules _ (List.mem_cons_self ..)).plain rfl
  rw [Node.decode, Node.decode, hType]
  rw [rulesFor?, kindOf?] at hObject
  cases hFound : fields.present? "type" with
  | none => rfl
  | some type =>
    rw [hFound] at hObject
    cases type with
    | text name =>
      have hName : Reader.string.check (path.child "type") (.text name) = .ok name := rfl
      dsimp only at hObject ⊢
      rw [hName, ok_bind, ok_bind]
      cases hKind : Kind.ofName? name with
      | none => rfl
      | some kind =>
        rw [hKind] at hObject
        cases hObject
        rw [Part.rules, List.forall_mem_cons, List.forall_mem_cons] at hRules
        obtain ⟨-, hDescription, hOwn⟩ := hRules
        dsimp only
        rw [ok_bind, ok_bind, optional_congr .string (hDescription.plain rfl)]
        refine bind_congr fun description => ?_
        cases kind with
        | boolean => dsimp only; rw [booleanRules_congr hOwn]
        | integer => dsimp only; rw [integerRules_congr hOwn]
        | string => dsimp only; rw [stringRules_congr hOwn]
        | bytes => dsimp only; rw [lengthRules_congr hOwn]
        | cidLink | unknown | null | token => rfl
        | blob =>
          simp only [Kind.rules, List.forall_mem_cons] at hOwn
          obtain ⟨hAccept, hMaxSize, -⟩ := hOwn
          dsimp only
          rw [listOrEmpty_congr .string (hAccept.plain rfl),
            optional_congr .integer (hMaxSize.plain rfl)]
        | union =>
          simp only [Kind.rules, List.forall_mem_cons] at hOwn
          obtain ⟨hRefs, hClosed, -⟩ := hOwn
          dsimp only
          rw [requiredList_congr .string (hRefs.plain rfl),
            optional_congr .boolean (hClosed.plain rfl)]
        | ref =>
          simp only [Kind.rules, List.forall_mem_cons] at hOwn
          obtain ⟨hRef, -⟩ := hOwn
          dsimp only
          rw [required_congr .string (hRef.plain rfl)]
        | array =>
          rw [Kind.rules, List.forall_mem_cons] at hOwn
          obtain ⟨hItems, hLengths⟩ := hOwn
          dsimp only
          rw [decodeField_alike hItems rfl, lengthRules_congr hLengths]
        | object =>
          simp only [Kind.rules, List.forall_mem_cons] at hOwn
          obtain ⟨hProperties, hRequired, hNullable, -⟩ := hOwn
          dsimp only
          rw [decodeProperties_alike hProperties, listOrEmpty_congr .string (hRequired.plain rfl),
            listOrEmpty_congr .string (hNullable.plain rfl)]
        | params =>
          simp only [Kind.rules, List.forall_mem_cons] at hOwn
          obtain ⟨hProperties, hRequired, -⟩ := hOwn
          dsimp only
          rw [decodeProperties_alike hProperties, listOrEmpty_congr .string (hRequired.plain rfl)]
        | record =>
          simp only [Kind.rules, List.forall_mem_cons] at hOwn
          obtain ⟨hRecord, hKey, -⟩ := hOwn
          dsimp only
          rw [decodeField_alike hRecord rfl, required_congr .string (hKey.plain rfl)]
        | query =>
          simp only [Kind.rules, List.forall_mem_cons] at hOwn
          obtain ⟨hParameters, hOutput, hErrors, -⟩ := hOwn
          dsimp only
          rw [decodeField_alike hParameters rfl, decodeBody_alike hOutput,
            decodeErrors_alike hErrors]
        | procedure =>
          simp only [Kind.rules, List.forall_mem_cons] at hOwn
          obtain ⟨hParameters, hInput, hOutput, hErrors, -⟩ := hOwn
          dsimp only
          rw [decodeField_alike hParameters rfl, decodeBody_alike hInput,
            decodeBody_alike hOutput, decodeErrors_alike hErrors]
        | subscription =>
          simp only [Kind.rules, List.forall_mem_cons] at hOwn
          obtain ⟨hMessage, hParameters, hErrors, -⟩ := hOwn
          dsimp only
          rw [decodeMessage_alike hMessage, decodeField_alike hParameters rfl,
            decodeErrors_alike hErrors]
    | _ => rfl

theorem body_alike (hRules : ∀ rule ∈ Part.body.rules, ReadsAlike rule fields changed) :
    DecodesAlike (.part .body) (.mapping fields) (.mapping changed) := by
  intro key path
  simp only [Part.rules, List.forall_mem_cons] at hRules
  obtain ⟨hEncoding, hSchema, hDescription, -⟩ := hRules
  rw [decodeBody_eq, decodeBody_eq, present?_of_ne_null (by simp), present?_of_ne_null (by simp)]
  dsimp only
  rw [required_congr .string (hEncoding.plain rfl), decodeField_alike hSchema rfl,
    optional_congr .string (hDescription.plain rfl)]

theorem message_alike (hRules : ∀ rule ∈ Part.message.rules, ReadsAlike rule fields changed) :
    DecodesAlike (.part .message) (.mapping fields) (.mapping changed) := by
  intro key path
  simp only [Part.rules, List.forall_mem_cons] at hRules
  obtain ⟨hSchema, hDescription, -⟩ := hRules
  rw [decodeMessage_eq, decodeMessage_eq, present?_of_ne_null (by simp),
    present?_of_ne_null (by simp)]
  dsimp only
  rw [decodeField_alike hSchema rfl, optional_congr .string (hDescription.plain rfl)]

theorem error_alike (hRules : ∀ rule ∈ Part.error.rules, ReadsAlike rule fields changed) :
    DecodesAlike (.part .error) (.mapping fields) (.mapping changed) := by
  intro path
  simp only [Part.rules, List.forall_mem_cons] at hRules
  obtain ⟨hName, hDescription, -⟩ := hRules
  have hObject : ∀ inner : Fields, Reader.object.check path (.mapping inner) = .ok inner :=
    fun _ => rfl
  rw [ErrorVariant.decode, ErrorVariant.decode, hObject, hObject, ok_bind, ok_bind,
    required_congr .string (hName.plain rfl), optional_congr .string (hDescription.plain rfl)]

/-- That there are definitions at all is checked before any field is read. -/
theorem ofValue_alike (hRules : ∀ rule ∈ Part.document.rules, ReadsAlike rule fields changed) :
    Document.ofValue (.mapping changed) = Document.ofValue (.mapping fields) := by
  simp only [Part.rules, List.forall_mem_cons] at hRules
  obtain ⟨hLexicon, hId, hRevision, hDescription, hDefs, -⟩ := hRules
  have hObject : ∀ inner : Fields, Reader.object.check "" (.mapping inner) = .ok inner :=
    fun _ => rfl
  have hThere : (changed.present? "defs").isNone = (fields.present? "defs").isNone := by
    cases hDefs with
    | same hSame => exact congrArg Option.isNone hSame
    | below hv hw _ => exact (congrArg Option.isNone hw).trans (congrArg Option.isNone hv).symm
  rw [Document.ofValue, Document.ofValue, hObject, hObject, ok_bind, ok_bind, hThere,
    required_congr .integer (hLexicon.plain rfl), required_congr .string (hId.plain rfl),
    optional_congr _ (hRevision.plain rfl), optional_congr .string (hDescription.plain rfl),
    decodeProperties_alike hDefs]

/-- **Objects whose fields are read alike** are alike. -/
theorem alike_of_fields {form : Form} {rules : List Rule}
    (hObject : rulesFor? fields form = some rules)
    (hRules : ∀ rule ∈ rules, ReadsAlike rule fields changed) :
    DecodesAlike form (.mapping fields) (.mapping changed) := by
  cases form with
  | node => exact decode_alike hObject hRules
  | part p =>
    cases p with
    | node kind => exact decode_alike hObject hRules
    | body =>
      cases hObject
      exact body_alike hRules
    | message =>
      cases hObject
      exact message_alike hRules
    | error =>
      cases hObject
      exact error_alike hRules
    | document =>
      cases hObject
      exact ofValue_alike hRules
  | _ => cases hObject

end Objects

-- ---------------------------------------------------------------------------
-- Changes make no difference
-- ---------------------------------------------------------------------------

/-- No two rules of an object are about the same field. -/
theorem keys_nodup {fields : Fields} {form : Form} {rules : List Rule}
    (h : rulesFor? fields form = some rules) : (rules.map Rule.key).Nodup := by
  have hPart : ∀ p : Part, (p.rules.map Rule.key).Nodup := by
    intro p
    cases p with
    | node kind => cases kind <;> decide
    | _ => decide
  have hNode : ∀ rules, rulesFor? fields .node = some rules → (rules.map Rule.key).Nodup := by
    intro rules h
    rw [rulesFor?] at h
    split at h
    · cases h
      exact hPart _
    · cases h
      exact List.nodup_singleton _
  cases form with
  | node => exact hNode rules h
  | part p =>
    cases p with
    | node kind => exact hNode rules h
    | _ =>
      cases h
      exact hPart _
  | _ => cases h

theorem decodeEntries_alike {v w : Value} (h : DecodesAlike .node v w) (path : Path) (name : String)
    (before after : Fields) :
    decodeEntries path (before ++ (name, w) :: after) =
      decodeEntries path (before ++ (name, v) :: after) := by
  induction before with
  | nil =>
    rw [List.nil_append, List.nil_append, decodeEntries, decodeEntries, h]
  | cons e rest ih =>
    obtain ⟨k, x⟩ := e
    rw [List.cons_append, List.cons_append, decodeEntries, decodeEntries, ih]

theorem decodeVariants_alike {v w : Value} (h : DecodesAlike (.part .error) v w) (path : Path)
    (index : Nat) (before after : List Value) :
    decodeVariants path index (before ++ w :: after) =
      decodeVariants path index (before ++ v :: after) := by
  induction before generalizing index with
  | nil => rw [List.nil_append, List.nil_append, decodeVariants, decodeVariants, h]
  | cons x rest ih => rw [List.cons_append, List.cons_append, decodeVariants, decodeVariants, ih]

/-- **A change makes no difference**, wherever it lies: by induction on how deep that is, every
object above it is read as before. -/
theorem Edited.alike {form : Form} {v w : Value} (h : Edited form v w) : DecodesAlike form v w := by
  induction h with
  | drop hObject hNull =>
    exact alike_of_fields hObject fun rule _ => .same (present?_filter hNull rule.key)
  | add hObject hUnread =>
    refine alike_of_fields hObject fun rule hRule => .same (present?_insert _ _ _ ?_)
    rintro rfl
    exact hUnread (List.mem_map_of_mem hRule)
  | @field form before after rules rule v w hObject hRule hBelow ih =>
    refine alike_of_fields hObject fun other hOther => ?_
    by_cases hKey : other.key = rule.key
    · -- the field that leads to the change is read by one rule only
      obtain rfl := List.inj_on_of_nodup_map (keys_nodup hObject) hOther hRule hKey
      rcases present?_replace before after other.key hBelow.ne_null.1 hBelow.ne_null.2 with
        hSame | ⟨hv, hw⟩
      · exact .same hSame
      · exact .below hv hw ih
    · exact .same ((present?_insert before after w hKey).trans
        (present?_insert before after v hKey).symm)
  | @entry before after name v w _ ih =>
    intro key path
    rw [decodeProperties_eq, decodeProperties_eq, present?_of_ne_null (by simp),
      present?_of_ne_null (by simp)]
    exact decodeEntries_alike ih _ name before after
  | @error before after v w _ ih =>
    intro path
    have hList : ∀ items : List Value,
        Reader.array.optional [("errors", .list items)] "errors" path = .ok (some items) :=
      fun _ => rfl
    rw [decodeErrors, decodeErrors, hList, hList, ok_bind, ok_bind]
    exact decodeVariants_alike ih _ 0 before after

/-- **What the decoder does not look at.** Let nulls be taken out of the objects of a document or
put into them, and fields that no rule names likewise, in any number and at any depth. Then the
document is decoded as before, or there is the same error at the same path as before. -/
theorem decode_edited {payload changed : Payload} {v w : Value} (hPayload : payload.Holds v)
    (hChanged : changed.Holds w) (hEdits : Relation.EqvGen (Edited (.part .document)) v w) :
    Document.decode changed = Document.decode payload := by
  rw [hPayload.decode, hChanged.decode]
  clear hPayload hChanged
  induction hEdits with
  | rel v w hEdit => exact hEdit.alike
  | refl v => rfl
  | symm v w _ ih => exact ih.symm
  | trans u v w _ _ ihFirst ihSecond => exact ihSecond.trans ihFirst

/-- A null in the list of errors and a stranger in the schema of a body, once in a document that is
decoded and once in one that is not. -/
theorem decode_edited_query :
    let shape (lexicon tags failure : Value) : Value := .mapping
      [("lexicon", lexicon), ("id", .text "a.b"),
        ("defs", .mapping [("main", .mapping [("type", .text "query"),
          ("output", .mapping [("encoding", .text "application/json"), ("schema", tags)]),
          ("errors", .list [failure])])])]
    let tags : Value := .mapping [("type", .text "array"),
      ("items", .mapping [("type", .text "string")])]
    let strange : Value := .mapping [("type", .text "array"), ("minimum", .text "x"),
      ("items", .mapping [("type", .text "string")])]
    let failure : Value := .mapping [("name", .text "Gone")]
    let silent : Value := .mapping [("name", .text "Gone"), ("description", .null)]
    (∃ document, Document.decode (.value (shape (.int 1) tags failure)) = .ok document ∧
      Document.decode (.value (shape (.int 1) strange silent)) = .ok document) ∧
    ∃ e, Document.decode (.value (shape (.text "1") tags failure)) = .error e ∧
      e.path = "lexicon" ∧
      Document.decode (.value (shape (.text "1") strange silent)) = .error e := by
  intro shape tags strange failure silent
  have hStrange : Edited .node tags strange :=
    @Edited.add _ [("type", .text "array")] _ _ "minimum" _ rfl (by decide)
  have hSilent : Edited (.part .error) silent failure :=
    @Edited.drop _ _ _ "description" rfl rfl
  -- the objects that lead to a change in the definition
  have hMain : ∀ {lexicon main changed : Value}, Edited .node main changed →
      Edited (.part .document)
        (.mapping [("lexicon", lexicon), ("id", .text "a.b"), ("defs", .mapping [("main", main)])])
        (.mapping [("lexicon", lexicon), ("id", .text "a.b"),
          ("defs", .mapping [("main", changed)])]) := fun {lexicon _ _} h =>
    @Edited.field _ [("lexicon", lexicon), ("id", .text "a.b")] _ _ (.required "defs" .nodes) _ _
      rfl (by simp [Part.rules]) (@Edited.entry [] _ _ _ _ h)
  have hSchema : ∀ lexicon, Edited (.part .document) (shape lexicon tags failure)
      (shape lexicon strange failure) := fun lexicon =>
    hMain (@Edited.field _ [("type", .text "query")] _ _ (.optional "output" (.part .body)) _ _
      rfl (by simp [Part.rules, Kind.rules])
      (@Edited.field _ [("encoding", .text "application/json")] _ _ (.optional "schema" .node) _ _
        rfl (by simp [Part.rules]) hStrange))
  have hErrors : ∀ lexicon, Edited (.part .document) (shape lexicon strange silent)
      (shape lexicon strange failure) := fun lexicon =>
    hMain (@Edited.field _ [("type", .text "query"), ("output", _)] _ _ errorsRule _ _
      rfl (by simp [Part.rules, Kind.rules]) (@Edited.error [] _ _ _ hSilent))
  have hHolds : ∀ lexicon t f, Payload.Holds (.value (shape lexicon t f)) (shape lexicon t f) :=
    fun _ _ _ => .value (by simp [shape])
  have hSame := fun lexicon => decode_edited (hHolds lexicon tags failure)
    (hHolds lexicon strange silent)
    (.trans _ _ _ (.rel _ _ (hSchema lexicon)) (.symm _ _ (.rel _ _ (hErrors lexicon))))
  obtain ⟨document, hDocument⟩ : ∃ document,
      Document.decode (.value (shape (.int 1) tags failure)) = .ok document := ⟨_, rfl⟩
  obtain ⟨e, hError, hPath⟩ : ∃ e,
      Document.decode (.value (shape (.text "1") tags failure)) = .error e ∧ e.path = "lexicon" :=
    ⟨_, rfl, rfl⟩
  exact ⟨⟨document, hDocument, (hSame (.int 1)).trans hDocument⟩, e, hError, hPath,
    (hSame (.text "1")).trans hError⟩

end Lexicon.Schema
