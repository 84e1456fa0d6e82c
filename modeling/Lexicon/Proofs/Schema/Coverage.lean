import Lexicon.Proofs.Schema.Position

/-!
# Lexicon — the decoder and the walk meet the same nodes

A schema tree is described twice: by the decoder, which turns the values at some positions into
nodes, and by the walk, which lists the nodes of the tree. Both are brought to the same form, a
listing of positions with parents first.

* `Nesting`, `Nesting.places` — things that lie below each other, and the listing of them.
* `places_decoded`  — the places of a node are decoded from the places of its value.
* `walk_eq_places`  — the walk lists the places of a node.
* `Before`          — which of two positions in a value comes first.
* `mem_places`, `places_before` — the listing of a value holds all its positions, in order.
* `walk_covers_decoded` — what the walk yields, in terms of the value that a node is decoded from.
-/

namespace Lexicon.Schema

-- ---------------------------------------------------------------------------
-- Places
-- ---------------------------------------------------------------------------

/-- Things of which smaller ones lie below others on branches. -/
structure Nesting (α : Type) [SizeOf α] where
  below : α → List (Branch × α)
  smaller : ∀ a, ∀ e ∈ below a, sizeOf e.2 < sizeOf a

namespace Nesting

variable {α : Type} [SizeOf α]

/-- All that lies at or below something, with its positions: a thing comes before what lies below
it, and what lies on one branch before what lies on the next. -/
def places (nesting : Nesting α) (a : α) : List (Position × α) :=
  ([], a) :: (nesting.below a).attach.flatMap fun ⟨(branch, b), _⟩ =>
    (nesting.places b).map fun place => (branch :: place.1, place.2)
termination_by sizeOf a
decreasing_by exact nesting.smaller a _ ‹_›

/-- The places on a branch. -/
def placesOn (nesting : Nesting α) (e : Branch × α) : List (Position × α) :=
  (nesting.places e.2).map fun place => (e.1 :: place.1, place.2)

theorem places_eq (nesting : Nesting α) (a : α) :
    nesting.places a = ([], a) :: (nesting.below a).flatMap nesting.placesOn := by
  rw [places, List.flatMap_subtype (g := nesting.placesOn) (fun _ _ => rfl), List.unattach_attach]

theorem mem_placesOn {nesting : Nesting α} {e : Branch × α} {place : Position × α} :
    place ∈ nesting.placesOn e ↔
      ∃ position, place.1 = e.1 :: position ∧ (position, place.2) ∈ nesting.places e.2 := by
  obtain ⟨found, a⟩ := place
  refine List.mem_map.trans ⟨?_, ?_⟩
  · rintro ⟨⟨position, b⟩, hPlace, hEq⟩
    cases hEq
    exact ⟨position, rfl, hPlace⟩
  · rintro ⟨position, rfl, hPlace⟩
    exact ⟨_, hPlace, rfl⟩

end Nesting

theorem sizeOf_lt_of_entry {κ α : Type} [SizeOf κ] [SizeOf α] {entries : List (κ × α)}
    {e : κ × α} (h : e ∈ entries) : sizeOf e.2 < sizeOf entries := by
  have hEntry : sizeOf e = 1 + sizeOf e.1 + sizeOf e.2 := rfl
  have hList := List.sizeOf_lt_of_mem h
  omega

-- ---------------------------------------------------------------------------
-- The places of a value
-- ---------------------------------------------------------------------------

/-- What keys lead to is smaller. -/
theorem sizeOf_follow {keys : List String} {v w : Value} (h : follow keys v = some w) :
    keys = [] ∨ sizeOf w < sizeOf v := by
  induction keys generalizing v with
  | nil => exact .inl rfl
  | cons key rest ih =>
    cases v with
    | mapping fields =>
      obtain ⟨u, hKey, hRest⟩ := Option.bind_eq_some_iff.mp h
      have hEntry : sizeOf u < sizeOf fields := sizeOf_lt_of_entry (mem_of_lookup hKey)
      have hFields := Value.mapping.sizeOf_spec fields
      rcases ih hRest with rfl | hLess
      · cases hRest
        exact .inr (by omega)
      · exact .inr (by omega)
    | _ => cases h

/-- A property is an entry of the mapping of properties. -/
theorem exists_of_mem_properties {v : Value} {e : Branch × Value} (h : e ∈ propertiesOf v) :
    ∃ entries name, follow ["properties"] v = some (.mapping entries) ∧ e.1 = .property name ∧
      (name, e.2) ∈ entries := by
  rw [propertiesOf] at h
  split at h
  · rename_i entries hEntries
    obtain ⟨⟨name, w⟩, hEntry, rfl⟩ := List.mem_map.mp h
    exact ⟨entries, name, hEntries, rfl, hEntry⟩
  · cases h

theorem follow_of_mem_held {v : Value} {branch : Branch} {e : Branch × Value}
    (h : e ∈ heldBy v branch) : e.1 = branch ∧ follow branch.keys v = some e.2 := by
  rw [heldBy] at h
  split at h
  · cases h
  · cases h
  · rename_i w _ hFollow
    cases List.mem_singleton.mp h
    exact ⟨rfl, hFollow⟩

/-- What holds of every value that is reached from another one holds of the values below it. -/
theorem below_of_reached {v : Value} (p : Value → Prop)
    (hFollow : ∀ keys w, keys ≠ [] → follow keys v = some w → p w)
    (hEntry : ∀ entries, p (.mapping entries) → ∀ e ∈ entries, p e.2) :
    ∀ e ∈ valuesBelow v, p e.2 := by
  intro e he
  have hProperties : e ∈ propertiesOf v → p e.2 := by
    intro he
    obtain ⟨entries, name, hEntries, -, hMem⟩ := exists_of_mem_properties he
    exact hEntry entries (hFollow _ _ (by simp) hEntries) _ hMem
  rw [valuesBelow] at he
  split at he
  · cases he
  · exact hProperties he
  · exact hProperties he
  · obtain ⟨branch, -, hHeld⟩ := List.mem_flatMap.mp he
    have hKeys : branch.keys ≠ [] := by cases branch <;> simp [Branch.keys]
    exact hFollow _ _ hKeys (follow_of_mem_held hHeld).2

/-- The values that are to be nodes. -/
def values : Nesting Value where
  below := valuesBelow
  smaller v := by
    refine below_of_reached (fun w => sizeOf w < sizeOf v) ?_ ?_
    · intro keys w hKeys hFollow
      exact (sizeOf_follow hFollow).resolve_left hKeys
    · intro entries hLess e he
      have hFields := Value.mapping.sizeOf_spec entries
      have hEntry := sizeOf_lt_of_entry he
      omega

-- ---------------------------------------------------------------------------
-- The places of a node
-- ---------------------------------------------------------------------------

theorem mem_asBranch {branch : Branch} {found : Option Node} {e : Branch × Node}
    (h : e ∈ asBranch branch found) : found = some e.2 := by
  obtain ⟨node, hNode, rfl⟩ := List.mem_map.mp h
  exact Option.mem_toList.mp hNode

theorem sizeOf_properties {properties : List (String × Node)} {e : Branch × Node}
    (h : e ∈ asProperties properties) : sizeOf e.2 < sizeOf properties := by
  obtain ⟨entry, hEntry, rfl⟩ := List.mem_map.mp h
  exact sizeOf_lt_of_entry hEntry

theorem sizeOf_parameters {parameters : Option Node} {branch : Branch} {e : Branch × Node}
    (h : e ∈ asBranch branch parameters) : sizeOf e.2 < sizeOf parameters := by
  rw [mem_asBranch h, Option.some.sizeOf_spec]
  omega

theorem sizeOf_body {body : Option (Body Node)} {branch : Branch} {e : Branch × Node}
    (h : e ∈ asBranch branch (body.bind Body.schema)) : sizeOf e.2 < sizeOf body := by
  obtain ⟨⟨encoding, schema, description⟩, rfl, hSchema⟩ :=
    Option.bind_eq_some_iff.mp (mem_asBranch h)
  cases hSchema
  rw [Option.some.sizeOf_spec, Body.mk.sizeOf_spec, Option.some.sizeOf_spec]
  omega

theorem sizeOf_message {message : Option (Message Node)} {branch : Branch} {e : Branch × Node}
    (h : e ∈ asBranch branch (message.map Message.schema)) : sizeOf e.2 < sizeOf message := by
  obtain ⟨⟨schema, description⟩, rfl, rfl⟩ := Option.map_eq_some_iff.mp (mem_asBranch h)
  rw [Option.some.sizeOf_spec, Message.mk.sizeOf_spec]
  omega

theorem sizeOf_below (node : Node) : ∀ e ∈ nodesBelow node, sizeOf e.2 < sizeOf node := by
  intro e he
  cases node with
  | leaf => cases he
  | array d items rules =>
    cases List.mem_singleton.mp he
    show sizeOf items < _
    rw [Node.array.sizeOf_spec]
    omega
  | object schema =>
    obtain ⟨d, properties, required, nullable⟩ := schema
    have hLess := sizeOf_properties he
    rw [Node.object.sizeOf_spec, ObjectSchema.mk.sizeOf_spec]
    simp only [ObjectSchema.properties] at hLess
    omega
  | params d properties required =>
    have hLess := sizeOf_properties he
    rw [Node.params.sizeOf_spec]
    omega
  | record d key schema =>
    cases List.mem_singleton.mp he
    have hDescription : 0 < sizeOf d := by
      cases d with
      | none => exact Nat.one_pos
      | some text => exact Nat.add_pos_left Nat.one_pos _
    rw [Node.record.sizeOf_spec, Node.object.sizeOf_spec]
    omega
  | query d parameters output errors =>
    rw [Node.query.sizeOf_spec]
    rcases List.mem_append.mp he with he | he
    · have hLess := sizeOf_parameters he
      omega
    · have hLess := sizeOf_body he
      omega
  | procedure d parameters input output errors =>
    rw [Node.procedure.sizeOf_spec]
    rcases List.mem_append.mp he with he | he
    · rcases List.mem_append.mp he with he | he
      · have hLess := sizeOf_parameters he
        omega
      · have hLess := sizeOf_body he
        omega
    · have hLess := sizeOf_body he
      omega
  | subscription d parameters message errors =>
    rw [Node.subscription.sizeOf_spec]
    rcases List.mem_append.mp he with he | he
    · have hLess := sizeOf_parameters he
      omega
    · have hLess := sizeOf_message he
      omega

/-- The nodes of a tree. -/
def nodes : Nesting Node where
  below := nodesBelow
  smaller := sizeOf_below

-- ---------------------------------------------------------------------------
-- Decoder and walk
-- ---------------------------------------------------------------------------

/-- `Stands path place given`: what lies at a place of a node is decoded from what lies at the same
place of a value at a path. -/
structure Stands (path : Path) (place : Position × Node) (given : Position × Value) : Prop where
  position : place.1 = given.1
  decoded : Node.decode (path.along (keysOf given.1)) given.2 = .ok place.2

/-- **The places of a node** are decoded from the places of the value that the node is decoded
from, by induction on the node. -/
theorem places_decoded {path : Path} {v : Value} {node : Node} (h : Node.decode path v = .ok node) :
    List.Forall₂ (Stands path) (nodes.places node) (values.places v) := by
  induction hSize : sizeOf node using Nat.strongRecOn generalizing node v path with
  | ind n ih =>
    subst hSize
    rw [Nesting.places_eq, Nesting.places_eq]
    refine .cons ⟨rfl, h⟩ ?_
    have hBelow := (List.forall₂_and_left _ _).mpr ⟨nodes.smaller node, decoded_below h⟩
    refine List.rel_flatMap hBelow ?_
    rintro ⟨branch, inner⟩ ⟨branch', w⟩ ⟨hLess, hMatches⟩
    obtain rfl : branch = branch' := hMatches.branch
    refine List.forall₂_map_left_iff.mpr (List.forall₂_map_right_iff.mpr ?_)
    refine (ih _ hLess hMatches.decoded rfl).imp ?_
    rintro ⟨position, found⟩ ⟨position', u⟩ ⟨hPosition, hDecoded⟩
    obtain rfl : position = position' := hPosition
    refine ⟨rfl, ?_⟩
    rw [keysOf, List.flatMap_cons, Path.along, List.foldl_append]
    exact hDecoded

/-- What a branch adds to the path of a node. -/
def Branch.label : Branch → String
  | property name => name
  | items => "items"
  | record => "record"
  | parameters => "parameters"
  | input => "input"
  | output => "output"
  | message => "message"

/-- The path of a node that lies at a position below a path. -/
def Path.toward (path : Path) (position : Position) : Path :=
  path.along (position.map Branch.label)

/-- The walk over what lies on a branch. -/
def walkOn (path : Path) (e : Branch × Node) : List (Path × Node) := e.2.walk (path.child e.1.label)

theorem walkEntries_eq (path : Path) (properties : List (String × Node)) :
    walkEntries path properties = (asProperties properties).flatMap (walkOn path) := by
  induction properties with
  | nil => rfl
  | cons entry rest ih =>
    obtain ⟨name, node⟩ := entry
    rw [walkEntries, ih]
    rfl

theorem walkOptional_eq (path : Path) (branch : Branch) (node : Option Node) :
    walkOptional (path.child branch.label) node = (asBranch branch node).flatMap (walkOn path) := by
  cases node with
  | none => rfl
  | some node => exact (List.append_nil _).symm

theorem walkBody_eq (path : Path) (branch : Branch) (body : Option (Body Node)) :
    walkBody (path.child branch.label) body =
      (asBranch branch (body.bind Body.schema)).flatMap (walkOn path) := by
  rw [← walkOptional_eq]
  obtain _ | ⟨encoding, _ | node, description⟩ := body <;> rfl

theorem walkMessage_eq (path : Path) (branch : Branch) (message : Option (Message Node)) :
    walkMessage (path.child branch.label) message =
      (asBranch branch (message.map Message.schema)).flatMap (walkOn path) := by
  rw [← walkOptional_eq]
  cases message <;> rfl

/-- **The walk over a node** goes over the nodes directly below it. -/
theorem walk_below (path : Path) (node : Node) :
    node.walk path = (path, node) :: (nodesBelow node).flatMap (walkOn path) := by
  cases node with
  | leaf => rfl
  | array d items rules =>
    rw [Node.walk, nodesBelow, List.flatMap_singleton]
    rfl
  | object schema =>
    obtain ⟨d, properties, required, nullable⟩ := schema
    rw [Node.walk, ObjectSchema.walkProperties, walkEntries_eq]
    rfl
  | params d properties required => rw [Node.walk, nodesBelow, walkEntries_eq]
  | record d key schema =>
    rw [Node.walk, nodesBelow, List.flatMap_singleton, walkOn, Node.walk]
    rfl
  | query d parameters output errors =>
    rw [Node.walk, nodesBelow, List.flatMap_append, ← walkOptional_eq, ← walkBody_eq]
    rfl
  | procedure d parameters input output errors =>
    rw [Node.walk, nodesBelow, List.flatMap_append, List.flatMap_append, ← walkOptional_eq,
      ← walkBody_eq, ← walkBody_eq]
    rfl
  | subscription d parameters message errors =>
    rw [Node.walk, nodesBelow, List.flatMap_append, ← walkOptional_eq, ← walkMessage_eq]
    rfl

/-- **The walk lists the places of a node**, by induction on the node. -/
theorem walk_eq_places (path : Path) (node : Node) :
    node.walk path = (nodes.places node).map fun place => (path.toward place.1, place.2) := by
  induction hSize : sizeOf node using Nat.strongRecOn generalizing node path with
  | ind n ih =>
    subst hSize
    rw [walk_below, Nesting.places_eq, List.map_cons, List.map_flatMap]
    congr 1
    refine List.flatMap_congr fun e he => ?_
    rw [walkOn, ih _ (nodes.smaller node e he) _ _ rfl, Nesting.placesOn, List.map_map]
    rfl

-- ---------------------------------------------------------------------------
-- Keyed values
-- ---------------------------------------------------------------------------

theorem keyed_follow {keys : List String} {v w : Value} (hKeyed : v.Keyed)
    (h : follow keys v = some w) : w.Keyed := by
  induction keys generalizing v with
  | nil =>
    cases h
    exact hKeyed
  | cons key rest ih =>
    cases hKeyed with
    | mapping hKeys hValues =>
      obtain ⟨u, hKey, hRest⟩ := Option.bind_eq_some_iff.mp h
      exact ih (hValues _ (mem_of_lookup hKey)) hRest
    | _ => cases h

theorem keyed_below {v : Value} (hKeyed : v.Keyed) : ∀ e ∈ valuesBelow v, e.2.Keyed := by
  refine below_of_reached Value.Keyed ?_ ?_
  · intro keys w _ hFollow
    exact keyed_follow hKeyed hFollow
  · intro entries hEntries e he
    cases hEntries with
    | mapping hKeys hValues => exact hValues e he

/-- The branches of a kind that hold something are among its branches, in the same order. -/
theorem held_sublist (v : Value) (branches : List Branch) :
    List.Sublist ((branches.flatMap (heldBy v)).map Prod.fst) branches := by
  induction branches with
  | nil => exact List.nil_sublist _
  | cons branch rest ih =>
    rw [List.flatMap_cons, List.map_append, ← List.singleton_append]
    refine List.Sublist.append ?_ ih
    rw [heldBy]
    split
    · exact List.nil_sublist _
    · exact List.nil_sublist _
    · exact List.Sublist.refl _

/-- In a keyed value, every branch occurs once. -/
theorem branches_nodup {v : Value} (hKeyed : v.Keyed) : ((valuesBelow v).map Prod.fst).Nodup := by
  have hProperties : ((propertiesOf v).map Prod.fst).Nodup := by
    rw [propertiesOf]
    split
    · rename_i entries hEntries
      cases keyed_follow hKeyed hEntries with
      | mapping hKeys =>
        have hNames := hKeys.map (f := Branch.property) fun _ _ => Branch.property.inj
        rwa [List.map_map] at hNames ⊢
    · exact List.nodup_nil
  rw [valuesBelow]
  split
  · exact List.nodup_nil
  · exact hProperties
  · exact hProperties
  · rename_i kind _ _ _
    have hKind : kind.branches.Nodup := by cases kind <;> decide
    exact hKind.sublist (held_sublist v _)

/-- **The listing of a keyed value** holds what lies at its positions, by induction on the
position. -/
theorem mem_places {v : Value} (hKeyed : v.Keyed) (position : Position) (w : Value) :
    (position, w) ∈ values.places v ↔ descend? position v = some w := by
  induction position generalizing v with
  | nil =>
    have hNone : ([], w) ∉ (values.below v).flatMap values.placesOn := by
      intro hMem
      obtain ⟨e, -, hPlace⟩ := List.mem_flatMap.mp hMem
      obtain ⟨position, hPosition, -⟩ := Nesting.mem_placesOn.mp hPlace
      cases hPosition
    rw [Nesting.places_eq, List.mem_cons, or_iff_left hNone, descend?, Option.some.injEq,
      Prod.mk.injEq, eq_self, true_and, eq_comm]
  | cons branch rest ih =>
    rw [Nesting.places_eq, List.mem_cons, or_iff_right (by simp), List.mem_flatMap, descend?,
      Option.bind_eq_some_iff]
    refine ⟨?_, ?_⟩
    · rintro ⟨⟨first, u⟩, hBelow, hPlace⟩
      obtain ⟨position, hPosition, hPlace⟩ := Nesting.mem_placesOn.mp hPlace
      cases hPosition
      exact ⟨u, lookup_of_mem (branches_nodup hKeyed) hBelow,
        (ih (keyed_below hKeyed _ hBelow)).mp hPlace⟩
    · rintro ⟨u, hLookup, hRest⟩
      have hBelow := mem_of_lookup hLookup
      exact ⟨(branch, u), hBelow, Nesting.mem_placesOn.mpr
        ⟨rest, rfl, (ih (keyed_below hKeyed _ hBelow)).mpr hRest⟩⟩

-- ---------------------------------------------------------------------------
-- Order
-- ---------------------------------------------------------------------------

/-- `Before v p q`: of two positions in a value, the first one comes before the second one. It lies
above it, or it lies on an earlier one of the two branches at which they part. -/
inductive Before : Value → Position → Position → Prop
  | above {v : Value} {branch : Branch} {rest : Position} : Before v [] (branch :: rest)
  | apart {v : Value} {first second : Branch} {p q : Position}
      (hOrder : List.Sublist [first, second] ((valuesBelow v).map Prod.fst)) :
      Before v (first :: p) (second :: q)
  | within {v w : Value} {branch : Branch} {p q : Position}
      (hBranch : (valuesBelow v).lookup branch = some w) (hBefore : Before w p q) :
      Before v (branch :: p) (branch :: q)

theorem Before.ne {v : Value} {p q : Position} (hKeyed : v.Keyed) (h : Before v p q) : p ≠ q := by
  induction h with
  | above => exact (List.cons_ne_nil _ _).symm
  | apart hOrder =>
    intro hEq
    have hPair := (branches_nodup hKeyed).sublist hOrder
    cases hEq
    simp at hPair
  | within hBranch hBefore ih =>
    intro hEq
    cases hEq
    exact ih (keyed_below hKeyed _ (mem_of_lookup hBranch)) rfl

/-- **The listing of a keyed value** goes from what comes before to what comes after, by induction
on the value. -/
theorem places_before {v : Value} (hKeyed : v.Keyed) :
    (values.places v).Pairwise fun first second => Before v first.1 second.1 := by
  induction hSize : sizeOf v using Nat.strongRecOn generalizing v with
  | ind n ih =>
    subst hSize
    rw [Nesting.places_eq, List.pairwise_cons, List.pairwise_flatMap]
    refine ⟨?_, ?_, ?_⟩
    · intro place hPlace
      obtain ⟨e, -, hPlace⟩ := List.mem_flatMap.mp hPlace
      obtain ⟨position, hPosition, -⟩ := Nesting.mem_placesOn.mp hPlace
      rw [hPosition]
      exact .above
    · intro e he
      have hLookup := lookup_of_mem (branches_nodup hKeyed) he
      have hInner := ih _ (values.smaller v e he) (keyed_below hKeyed e he) rfl
      rw [Nesting.placesOn, List.pairwise_map]
      exact hInner.imp (.within hLookup)
    · rw [List.pairwise_iff_forall_sublist]
      intro first second hOrder one hOne two hTwo
      obtain ⟨p, hp, -⟩ := Nesting.mem_placesOn.mp hOne
      obtain ⟨q, hq, -⟩ := Nesting.mem_placesOn.mp hTwo
      rw [hp, hq]
      exact .apart (hOrder.map Prod.fst)

-- ---------------------------------------------------------------------------
-- The walk
-- ---------------------------------------------------------------------------

/-- `Yields path start entry place`: the walk from a path yields what is decoded at a place of a
value that lies at a path. -/
structure Yields (path start : Path) (entry : Path × Node) (place : Position × Value) : Prop where
  walked : entry.1 = start.toward place.1
  decoded : Node.decode (path.along (keysOf place.1)) place.2 = .ok entry.2

/-- **The walk covers what is decoded.** A node that is decoded from a value is walked with one
entry for each position of the value at which a node is decoded, and with no other entry. Every
node is yielded once, after the nodes above it, and before all that lies on the later branches of
these; of a mapping of properties, the branches are in the order of the mapping. -/
theorem walk_covers_decoded {path : Path} (start : Path) {v : Value} {node : Node}
    (hKeyed : v.Keyed) (hDecode : Node.decode path v = .ok node) :
    ∃ places : List (Position × Value),
      List.Forall₂ (Yields path start) (node.walk start) places ∧
        (∀ position w, (position, w) ∈ places ↔ descend? position v = some w) ∧
        (places.map Prod.fst).Nodup ∧ (places.map Prod.fst).Pairwise (Before v) := by
  have hBefore := List.pairwise_map.mpr (places_before hKeyed)
  refine ⟨values.places v, ?_, mem_places hKeyed, hBefore.imp (Before.ne hKeyed), hBefore⟩
  rw [walk_eq_places, List.forall₂_map_left_iff]
  refine (places_decoded hDecode).imp ?_
  rintro ⟨position, inner⟩ given ⟨hPosition, hDecoded⟩
  obtain rfl : position = given.1 := hPosition
  exact ⟨rfl, hDecoded⟩

/-- A subscription whose message has properties: it gives the message before the parameters. -/
def feed : Value := .mapping
  [("type", .text "subscription"),
    ("message", .mapping [("schema", .mapping [("type", .text "object"), ("properties", .mapping
      [("seq", .mapping [("type", .text "integer")]),
        ("ops", .mapping [("type", .text "array"), ("items", .mapping [("type", .text "token")])]),
        ("did", .mapping [("type", .text "string")])])])]),
    ("parameters", .mapping [("type", .text "params")])]

theorem feed_keyed : feed.Keyed := by
  repeat' first
    | exact .text
    | exact List.forall_mem_nil _
    | refine List.forall_mem_cons.mpr ⟨?_, ?_⟩
    | refine .mapping (by decide) ?_

theorem walk_covers_decoded_feed : feed.Keyed ∧ ∃ node, Node.decode "" feed = .ok node ∧
    (node.walk "").map Prod.fst = ["", "parameters", "message", "message.seq", "message.ops",
      "message.ops.items", "message.did"] ∧
    ∃ places : List (Position × Value),
      List.Forall₂ (Yields "" "") (node.walk "") places ∧
        (∀ position w, (position, w) ∈ places ↔ descend? position feed = some w) ∧
        (places.map Prod.fst).Nodup ∧ (places.map Prod.fst).Pairwise (Before feed) := by
  obtain ⟨node, hDecode, hWalk⟩ : ∃ node, Node.decode "" feed = .ok node ∧
      (node.walk "").map Prod.fst = ["", "parameters", "message", "message.seq", "message.ops",
        "message.ops.items", "message.did"] := ⟨_, rfl, rfl⟩
  exact ⟨feed_keyed, node, hDecode, hWalk, walk_covers_decoded "" feed_keyed hDecode⟩

end Lexicon.Schema
