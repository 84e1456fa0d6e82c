import Lexicon.Proofs.Schema.Acceptance

/-!
# Lexicon — decoding elsewhere

The decoder is told the path of what it decodes, and uses it for nothing but the paths of errors.
So a node comes to the same wherever it lies, and the path of an error below it is the path that
the error has when the node is decoded alone, put behind the path of the node.

* `Path.under`   — a path that is found below another one.
* `Moved`        — two computations come to the same, one of them below a path; with one rule for
                   each form of step.
* `decode_moved` — a node is decoded alike wherever it lies.

A path grows by keys of the grammar, which are never empty, and by names of properties, which may
be. Where a name is put behind a path, that path is not empty itself.
-/

namespace Lexicon.Schema

-- ---------------------------------------------------------------------------
-- Paths
-- ---------------------------------------------------------------------------

/-- A path that is found below another one. -/
def Path.under (path below : Path) : Path := if below = "" then path else path ++ "." ++ below

/-- An error that is found below a path. -/
def DecodeError.under (path : Path) (e : DecodeError) : DecodeError := ⟨path.under e.path, e.fault⟩

theorem Path.child_ne_empty {path : Path} {key : String} (h : path ≠ "" ∨ key ≠ "") :
    path.child key ≠ "" := by
  rw [Path.child]
  split
  · rename_i hPath
    exact h.resolve_left fun hNot => hNot hPath
  · simp

theorem Path.under_child {path below : Path} {key : String} (hPath : path ≠ "")
    (h : below ≠ "" ∨ key ≠ "") : (path.under below).child key = path.under (below.child key) := by
  have hChild := Path.child_ne_empty h
  by_cases hBelow : below = ""
  · subst hBelow
    rw [Path.under, Path.under, if_pos rfl, if_neg hChild, Path.child, if_neg hPath, Path.child,
      if_pos rfl]
  · have hUnder : path ++ "." ++ below ≠ "" := by simp
    rw [Path.under, Path.under, if_neg hBelow, if_neg hChild, Path.child, if_neg hUnder, Path.child,
      if_neg hBelow]
    simp only [String.append_assoc]

theorem Path.under_item {path below : Path} (hBelow : below ≠ "") (index : Nat) :
    (path.under below).item index = path.under (below.item index) := by
  have hItem : below.item index ≠ "" := by
    rw [Path.item]
    simp
  rw [Path.under, Path.under, if_neg hBelow, if_neg hItem, Path.item, Path.item]
  simp only [String.append_assoc]

-- ---------------------------------------------------------------------------
-- Moved computations
-- ---------------------------------------------------------------------------

/-- `Moved path x moved`: the two computations come to the same, but errors are found below a
path. -/
def Moved {α : Type} (path : Path) (x moved : Decoded α) : Prop :=
  moved = x.mapError (DecodeError.under path)

section Moved

variable {α β : Type} {path here : Path}

theorem Moved.ok (a : α) : Moved path (.ok a) (.ok a) := rfl

theorem Moved.fail {there : Path} (h : there = path.under here) (fault : Fault) :
    Moved path (failAt here fault : Decoded α) (failAt there fault) := by
  rw [h]
  rfl

theorem Moved.bind {x moved : Decoded α} {f g : α → Decoded β} (hx : Moved path x moved)
    (hf : ∀ a, Moved path (f a) (g a)) : Moved path (x >>= f) (moved >>= g) := by
  rw [hx]
  cases x with
  | error e => rfl
  | ok a => exact hf a

theorem Moved.map {x moved : Decoded α} (hx : Moved path x moved) (f : α → β) :
    Moved path (f <$> x) (f <$> moved) := by
  rw [hx]
  cases x <;> rfl

end Moved

section Readers

variable {α : Type} {path here : Path} {key : String} (hPath : path ≠ "") (reader : Reader α)
  (fields : Fields)

theorem check_moved {there : Path} (h : there = path.under here) (v : Value) :
    Moved path (reader.check here v) (reader.check there v) := by
  rw [Reader.check, Reader.check]
  cases reader.read? v with
  | none => exact .fail h _
  | some a => exact .ok a

theorem items_moved (hHere : here ≠ "") (index : Nat) (items : List Value) :
    Moved path (reader.items here index items) (reader.items (path.under here) index items) := by
  induction items generalizing index with
  | nil => exact .ok []
  | cons v rest ih =>
    rw [Reader.items, Reader.items]
    refine .bind (check_moved reader (Path.under_item hHere index) v) fun a => ?_
    exact (ih (index + 1)).map (a :: ·)

include hPath

theorem optional_moved (hKey : key ≠ "") :
    Moved path (reader.optional fields key here) (reader.optional fields key (path.under here)) := by
  rw [Reader.optional, Reader.optional]
  cases fields.present? key with
  | none => exact .ok none
  | some v => exact (check_moved reader (Path.under_child hPath (.inr hKey)) v).map some

theorem required_moved (hKey : key ≠ "") :
    Moved path (reader.required fields key here) (reader.required fields key (path.under here)) := by
  rw [Reader.required, Reader.required]
  cases fields.present? key with
  | none => exact .fail rfl _
  | some v => exact check_moved reader (Path.under_child hPath (.inr hKey)) v

/-- The items of a list are found below a key, and so their paths are never empty. -/
theorem itemsIn_moved (hKey : key ≠ "") (items : List Value) :
    Moved path (reader.items (here.child key) 0 items)
      (reader.items ((path.under here).child key) 0 items) := by
  rw [Path.under_child hPath (.inr hKey)]
  exact items_moved reader (Path.child_ne_empty (.inr hKey)) 0 items

theorem optionalList_moved (hKey : key ≠ "") :
    Moved path (reader.optionalList fields key here)
      (reader.optionalList fields key (path.under here)) := by
  refine .bind (optional_moved hPath .array fields hKey) fun values => ?_
  cases values with
  | none => exact .ok none
  | some items => exact (itemsIn_moved hPath reader hKey items).map some

theorem listOrEmpty_moved (hKey : key ≠ "") :
    Moved path (reader.listOrEmpty fields key here)
      (reader.listOrEmpty fields key (path.under here)) :=
  (optionalList_moved hPath reader fields hKey).map (Option.getD · [])

theorem requiredList_moved (hKey : key ≠ "") :
    Moved path (reader.requiredList fields key here)
      (reader.requiredList fields key (path.under here)) :=
  .bind (required_moved hPath .array fields hKey) fun items => itemsIn_moved hPath reader hKey items

end Readers

section Leaves

variable {path here : Path}

theorem decodeVariants_moved (hPath : path ≠ "") (hHere : here ≠ "") (index : Nat)
    (items : List Value) :
    Moved path (decodeVariants here index items) (decodeVariants (path.under here) index items) := by
  have hVariant : ∀ {here there : Path}, there = path.under here → ∀ v : Value,
      Moved path (ErrorVariant.decode here v) (ErrorVariant.decode there v) := by
    rintro here _ rfl v
    refine .bind (check_moved .object rfl v) fun inner => ?_
    refine .bind (required_moved hPath .string inner (by decide)) fun name => ?_
    refine .bind (optional_moved hPath .string inner (by decide)) fun description => ?_
    exact .ok _
  induction items generalizing index with
  | nil => exact .ok []
  | cons v rest ih =>
    rw [decodeVariants, decodeVariants]
    refine .bind (hVariant (Path.under_item hHere index) v) fun variant => ?_
    exact (ih (index + 1)).map (variant :: ·)

variable (hPath : path ≠ "") (fields : Fields)

include hPath

theorem decodeErrors_moved :
    Moved path (decodeErrors fields here) (decodeErrors fields (path.under here)) := by
  have hKey : here.child "errors" ≠ "" := Path.child_ne_empty (.inr (by decide))
  refine .bind (optional_moved hPath .array fields (by decide)) fun values => ?_
  cases values with
  | none => exact .ok []
  | some items =>
    dsimp only
    rw [Path.under_child hPath (.inr (by decide))]
    exact decodeVariants_moved hPath hKey 0 items

theorem lengthRules_moved :
    Moved path (LengthRules.decode fields here) (LengthRules.decode fields (path.under here)) :=
  .bind (optional_moved hPath .integer fields (by decide)) fun _ =>
    .bind (optional_moved hPath .integer fields (by decide)) fun _ => .ok _

theorem booleanRules_moved :
    Moved path (BooleanRules.decode fields here) (BooleanRules.decode fields (path.under here)) :=
  .bind (optional_moved hPath .boolean fields (by decide)) fun _ =>
    .bind (optional_moved hPath .boolean fields (by decide)) fun _ => .ok _

theorem integerRules_moved :
    Moved path (IntegerRules.decode fields here) (IntegerRules.decode fields (path.under here)) := by
  refine .bind (optional_moved hPath .integer fields (by decide)) fun _ => ?_
  refine .bind (optional_moved hPath .integer fields (by decide)) fun _ => ?_
  refine .bind (optionalList_moved hPath .integer fields (by decide)) fun _ => ?_
  refine .bind (optional_moved hPath .integer fields (by decide)) fun _ => ?_
  refine .bind (optional_moved hPath .integer fields (by decide)) fun _ => ?_
  exact .ok _

theorem stringRules_moved :
    Moved path (StringRules.decode fields here) (StringRules.decode fields (path.under here)) := by
  refine .bind (optional_moved hPath .string fields (by decide)) fun _ => ?_
  refine .bind (optional_moved hPath .integer fields (by decide)) fun _ => ?_
  refine .bind (optional_moved hPath .integer fields (by decide)) fun _ => ?_
  refine .bind (optional_moved hPath .integer fields (by decide)) fun _ => ?_
  refine .bind (optional_moved hPath .integer fields (by decide)) fun _ => ?_
  refine .bind (optionalList_moved hPath .string fields (by decide)) fun _ => ?_
  refine .bind (optionalList_moved hPath .string fields (by decide)) fun _ => ?_
  refine .bind (optional_moved hPath .string fields (by decide)) fun _ => ?_
  refine .bind (optional_moved hPath .string fields (by decide)) fun _ => ?_
  exact .ok _

end Leaves

-- ---------------------------------------------------------------------------
-- Moved nodes
-- ---------------------------------------------------------------------------

section Nodes

variable {path here : Path} {fields : Fields} (hPath : path ≠ "")
  (hBelow : ∀ v, sizeOf v < sizeOf fields → ∀ {here there : Path}, there = path.under here →
    Moved path (Node.decode here v) (Node.decode there v))
  {key : String} (hKey : key ≠ "")

include hPath hBelow

theorem decodeEntries_moved (hHere : here ≠ "") :
    Moved path (decodeEntries here fields) (decodeEntries (path.under here) fields) := by
  induction fields with
  | nil => exact .ok []
  | cons e rest ih =>
    obtain ⟨name, value⟩ := e
    have hEntry : sizeOf ((name, value) :: rest) =
        1 + (1 + sizeOf name + sizeOf value) + sizeOf rest := rfl
    have hRest := ih fun v hv => hBelow v (by omega)
    rw [decodeEntries, decodeEntries]
    -- the name may be empty, but the path that it is put behind is not
    refine .bind (hBelow value (by omega) (Path.under_child hPath (.inl hHere))) fun node => ?_
    exact hRest.map ((name, node) :: ·)

include hKey

theorem decodeField_moved :
    Moved path (decodeField key here fields) (decodeField key (path.under here) fields) := by
  rw [decodeField_eq, decodeField_eq]
  cases h : fields.present? key with
  | none => exact .ok none
  | some v => exact (hBelow v (sizeOf_present h) (Path.under_child hPath (.inr hKey))).map some

theorem decodeProperties_moved :
    Moved path (decodeProperties key here fields)
      (decodeProperties key (path.under here) fields) := by
  have hChild : (path.under here).child key = path.under (here.child key) :=
    Path.under_child hPath (.inr hKey)
  rw [decodeProperties_eq, decodeProperties_eq]
  cases h : fields.present? key with
  | none => exact .ok []
  | some v =>
    cases v with
    | mapping entries =>
      have hLess : sizeOf (Value.mapping entries) < sizeOf fields := sizeOf_present h
      have hEntries := Value.mapping.sizeOf_spec entries
      dsimp only
      rw [hChild]
      refine decodeEntries_moved hPath (fun v hv => hBelow v ?_) (Path.child_ne_empty (.inr hKey))
      omega
    | _ => exact .fail hChild _

theorem decodeBody_moved :
    Moved path (decodeBody key here fields) (decodeBody key (path.under here) fields) := by
  have hChild : (path.under here).child key = path.under (here.child key) :=
    Path.under_child hPath (.inr hKey)
  rw [decodeBody_eq, decodeBody_eq]
  cases h : fields.present? key with
  | none => exact .ok none
  | some v =>
    cases v with
    | mapping inner =>
      have hLess : sizeOf (Value.mapping inner) < sizeOf fields := sizeOf_present h
      have hInner := Value.mapping.sizeOf_spec inner
      dsimp only
      rw [hChild]
      refine .bind (required_moved hPath .string inner (by decide)) fun _ => ?_
      refine .bind (decodeField_moved hPath (fun v hv => hBelow v (by omega)) (by decide)) fun _ => ?_
      refine .bind (optional_moved hPath .string inner (by decide)) fun _ => ?_
      exact .ok _
    | _ => exact .fail hChild _

theorem decodeMessage_moved :
    Moved path (decodeMessage key here fields) (decodeMessage key (path.under here) fields) := by
  have hChild : (path.under here).child key = path.under (here.child key) :=
    Path.under_child hPath (.inr hKey)
  rw [decodeMessage_eq, decodeMessage_eq]
  cases h : fields.present? key with
  | none => exact .ok none
  | some v =>
    cases v with
    | mapping inner =>
      have hLess : sizeOf (Value.mapping inner) < sizeOf fields := sizeOf_present h
      have hInner := Value.mapping.sizeOf_spec inner
      dsimp only
      rw [hChild]
      refine .bind (decodeField_moved hPath (fun v hv => hBelow v (by omega)) (by decide)) ?_
      intro schema
      cases schema with
      | none => exact .fail rfl _
      | some schema => exact .bind (optional_moved hPath .string inner (by decide)) fun _ => .ok _
    | _ => exact .fail hChild _

end Nodes

/-- **A node is decoded alike wherever it lies**: only the paths of errors tell the places apart. -/
theorem decode_moved {path : Path} (hPath : path ≠ "") (v : Value) {here there : Path}
    (h : there = path.under here) : Moved path (Node.decode here v) (Node.decode there v) := by
  induction hSize : sizeOf v using Nat.strongRecOn generalizing v here there with
  | ind n ih =>
    subst h
    cases v with
    | mapping fields =>
      have hFields := Value.mapping.sizeOf_spec fields
      have hBelow : ∀ w, sizeOf w < sizeOf fields → ∀ {here there : Path},
          there = path.under here → Moved path (Node.decode here w) (Node.decode there w) :=
        fun w hw _ _ hThere => ih (sizeOf w) (by omega) w hThere rfl
      rw [Node.decode, Node.decode]
      cases Fields.present? fields "type" with
      | none => exact .fail rfl _
      | some type =>
        refine .bind (check_moved .string (Path.under_child hPath (.inr (by decide))) type) ?_
        intro name
        dsimp only
        cases Kind.ofName? name with
        | none => exact .fail rfl _
        | some kind =>
          dsimp only
          rw [ok_bind, ok_bind]
          refine .bind (optional_moved hPath .string fields (by decide)) fun description => ?_
          cases kind with
          | boolean => exact .map (booleanRules_moved hPath fields) _
          | integer => exact .map (integerRules_moved hPath fields) _
          | string => exact .map (stringRules_moved hPath fields) _
          | bytes => exact .map (lengthRules_moved hPath fields) _
          | blob =>
            refine .bind (listOrEmpty_moved hPath .string fields (by decide)) fun _ => ?_
            exact .bind (optional_moved hPath .integer fields (by decide)) fun _ => .ok _
          | cidLink => exact .ok _
          | unknown => exact .ok _
          | null => exact .ok _
          | token => exact .ok _
          | array =>
            refine .bind (decodeField_moved hPath hBelow (by decide)) fun items => ?_
            cases items with
            | none => exact .fail rfl _
            | some items => exact .bind (lengthRules_moved hPath fields) fun _ => .ok _
          | object =>
            refine .bind (decodeProperties_moved hPath hBelow (by decide)) fun _ => ?_
            refine .bind (listOrEmpty_moved hPath .string fields (by decide)) fun _ => ?_
            exact .bind (listOrEmpty_moved hPath .string fields (by decide)) fun _ => .ok _
          | params =>
            refine .bind (decodeProperties_moved hPath hBelow (by decide)) fun _ => ?_
            exact .bind (listOrEmpty_moved hPath .string fields (by decide)) fun _ => .ok _
          | record =>
            refine .bind (decodeField_moved hPath hBelow (by decide)) fun inner => ?_
            cases inner with
            | none => exact .fail rfl _
            | some node =>
              cases node with
              | object schema =>
                exact .bind (required_moved hPath .string fields (by decide)) fun _ => .ok _
              | _ => exact .fail (Path.under_child hPath (.inr (by decide))) _
          | union =>
            refine .bind (requiredList_moved hPath .string fields (by decide)) fun _ => ?_
            exact .bind (optional_moved hPath .boolean fields (by decide)) fun _ => .ok _
          | ref => exact .bind (required_moved hPath .string fields (by decide)) fun _ => .ok _
          | query =>
            refine .bind (decodeField_moved hPath hBelow (by decide)) fun _ => ?_
            refine .bind (decodeBody_moved hPath hBelow (by decide)) fun _ => ?_
            exact .bind (decodeErrors_moved hPath fields) fun _ => .ok _
          | procedure =>
            refine .bind (decodeField_moved hPath hBelow (by decide)) fun _ => ?_
            refine .bind (decodeBody_moved hPath hBelow (by decide)) fun _ => ?_
            refine .bind (decodeBody_moved hPath hBelow (by decide)) fun _ => ?_
            exact .bind (decodeErrors_moved hPath fields) fun _ => .ok _
          | subscription =>
            refine .bind (decodeMessage_moved hPath hBelow (by decide)) fun _ => ?_
            refine .bind (decodeField_moved hPath hBelow (by decide)) fun _ => ?_
            exact .bind (decodeErrors_moved hPath fields) fun _ => .ok _
    | _ =>
      rw [Node.decode, Node.decode]
      · exact .fail rfl _
      · simp
      · simp

end Lexicon.Schema
