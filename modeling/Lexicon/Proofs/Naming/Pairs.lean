import Mathlib.Data.Finset.Card
import Lexicon.Proofs.Naming.Identifier
import Lexicon.Proofs.Naming.Index
import Lexicon.Proofs.Naming.Reference

/-!
# Lexicon — definitions as pairs

A definition is known by the id of its document and its name. The index joins the two into one text,
and takes texts apart at their first mark to find the document. Here it is set against the pairs
themselves: what it says in any case, and for which entries that is what the pairs say.

* `ids`, `pairs`       — the documents and definitions that are entered.
* `Dangles`            — a reference, by its parts, into a document that is entered without the
                         definition.
* `isUnresolved_iff`   — what the index says of a reference.
* `Separable`          — the entries for which that is what `Dangles` says.
* `size_eq_card`       — how many definitions the index counts.
* `judges_by_pairs`    — the index and the pairs, for all entries and references.
-/

namespace Lexicon.Naming.ReferenceIndex

-- ---------------------------------------------------------------------------
-- Pairs
-- ---------------------------------------------------------------------------

variable (additions : List (String × List String))

/-- The ids of the documents that are entered. -/
def ids : List String := additions.map Prod.fst

/-- The definitions that are entered, each as the id of its document and its name. -/
def pairs : List (String × String) := additions.flatMap fun (id, names) => names.map (id, ·)

/-- The full name of a definition. -/
def joined (definition : String × String) : String := qualified definition.1 definition.2

/-- Does a reference made in `document` point into a document that is entered, to a name that is not
entered with it? -/
def Dangles (reference document : String) : Prop :=
  documentPart reference document ∈ ids additions ∧
    (documentPart reference document, namePart reference) ∉ pairs additions

theorem mem_ids_of_mem_pairs {additions : List (String × List String)} {p : String × String}
    (h : p ∈ pairs additions) : p.1 ∈ ids additions := by
  obtain ⟨entry, hEntry, hPair⟩ := List.mem_flatMap.mp h
  obtain ⟨name, -, rfl⟩ := List.mem_map.mp hPair
  exact List.mem_map_of_mem hEntry

theorem mem_documents_iff (d : String) : d ∈ (ofList additions).documents ↔ d ∈ ids additions := by
  rw [mem_documents_ofList, ids, List.mem_map]
  exact exists_congr fun entry => and_congr_right' eq_comm

theorem mem_definitions_iff (n : String) :
    n ∈ (ofList additions).definitions ↔ ∃ p ∈ pairs additions, joined p = n := by
  rw [mem_definitions_ofList]
  constructor
  · rintro ⟨entry, hEntry, name, hName, rfl⟩
    exact ⟨(entry.1, name), List.mem_flatMap.mpr ⟨entry, hEntry, List.mem_map_of_mem hName⟩, rfl⟩
  · rintro ⟨p, hp, rfl⟩
    obtain ⟨entry, hEntry, hPair⟩ := List.mem_flatMap.mp hp
    obtain ⟨name, hName, rfl⟩ := List.mem_map.mp hPair
    exact ⟨entry, hEntry, name, hName, rfl⟩

-- ---------------------------------------------------------------------------
-- Judgement
-- ---------------------------------------------------------------------------

/-- **What the index says of a reference.** It leads nowhere if the text before the first mark of its
document part is an id that is entered, and no definition has its parts joined as its full name. -/
theorem isUnresolved_iff (reference document : String) :
    (ofList additions).isUnresolved reference document = true ↔
      head (documentPart reference document) ∈ ids additions ∧
        ∀ p ∈ pairs additions,
          joined p ≠ qualified (documentPart reference document) (namePart reference) := by
  rw [isUnresolved, Bool.and_eq_true, knows, List.contains_iff_mem, mem_documents_iff,
    Bool.not_eq_true', ← Bool.not_eq_true, List.contains_iff_mem, mem_definitions_iff,
    canonical_eq_qualified, head_qualified, not_exists]
  exact and_congr_right' (forall_congr' fun p => not_and)

/-- The entries that can be told apart when they are joined: what goes before the first mark of an id
is an id, and what can be read as a definition of a document is entered as one. -/
structure Separable : Prop where
  heads : ∀ id ∈ ids additions, head id ∈ ids additions
  joins : ∀ id ∈ ids additions, ∀ name, ∀ p ∈ pairs additions,
    joined p = qualified id name → (id, name) ∈ pairs additions

variable {additions}

/-- Entries that can be told apart are judged as pairs. -/
theorem Separable.isUnresolved_iff_dangles (h : Separable additions) {document : String}
    (hDocument : document ∈ ids additions ∨ mark ∉ document.toList) (reference : String) :
    (ofList additions).isUnresolved reference document = true ↔
      Dangles additions reference document := by
  rw [isUnresolved_iff, Dangles]
  have hPart : documentPart reference document ∈ ids additions ∨
      mark ∉ (documentPart reference document).toList := by
    rcases documentPart_cases reference document with hSame | hNoMark
    · rwa [hSame]
    · exact .inr hNoMark
  by_cases hEntered : documentPart reference document ∈ ids additions
  · refine and_congr (iff_of_true (h.heads _ hEntered) hEntered) ⟨?_, ?_⟩
    · intro hNone hPair
      exact hNone _ hPair rfl
    · intro hNoPair p hp hJoined
      exact hNoPair (h.joins _ hEntered _ p hp hJoined)
  · have hHead := (head_eq_self_iff _).mpr (hPart.resolve_left hEntered)
    rw [hHead]
    exact iff_of_false (fun hBoth => hEntered hBoth.1) fun hBoth => hEntered hBoth.1

/-- Entries whose own references are all judged as pairs can be told apart. -/
theorem separable_of_judged (h : ∀ document ∈ ids additions, ∀ reference,
    (ofList additions).isUnresolved reference document = true ↔
      Dangles additions reference document) : Separable additions := by
  -- a definition of a document can be asked for by a reference made in that document
  have hLocal : ∀ id ∈ ids additions, ∀ name,
      (head id ∈ ids additions ∧ ∀ p ∈ pairs additions, joined p ≠ qualified id name) ↔
        (id, name) ∉ pairs additions := by
    intro id hId name
    have hJudged := h id hId (qualified "" name)
    rw [isUnresolved_iff, Dangles, documentPart_local, namePart_local, and_iff_right hId] at hJudged
    exact hJudged
  constructor
  · intro id hId
    obtain ⟨k, -, hFree⟩ := exists_free_number ((pairs additions).map Prod.snd) mainName
    exact ((hLocal id hId _).mpr fun hPair => hFree (List.mem_map_of_mem hPair)).1
  · intro id hId name p hp hJoined
    by_contra hNoPair
    exact ((hLocal id hId name).mpr hNoPair).2 p hp hJoined

/-- Ids without marks leave nothing to be mistaken. -/
theorem joined_inj_of_ids (hIds : ∀ id ∈ ids additions, mark ∉ id.toList) {p q : String × String}
    (hp : p ∈ pairs additions) (hq : q.1 ∈ ids additions) (h : joined p = joined q) : p = q :=
  Prod.ext_iff.mpr (qualified_inj (hIds _ (mem_ids_of_mem_pairs hp)) (hIds _ hq) h)

theorem separable_of_ids (hIds : ∀ id ∈ ids additions, mark ∉ id.toList) :
    Separable additions where
  heads id hId := by rwa [(head_eq_self_iff id).mpr (hIds id hId)]
  joins id hId name p hp h := by
    have hSame : p = (id, name) := joined_inj_of_ids hIds hp hId h
    rwa [← hSame]

-- ---------------------------------------------------------------------------
-- Size
-- ---------------------------------------------------------------------------

variable (additions)

theorem definitions_nodup : (ofList additions).definitions.Nodup := by
  have hAdd : ∀ (index : ReferenceIndex) (document : String) (names : List String),
      index.definitions.Nodup → (index.add document names).definitions.Nodup := by
    intro index document names hIndex
    exact List.foldlRecOn (motive := fun i : ReferenceIndex => i.definitions.Nodup) names _ hIndex
      fun i hi name _ => hi.insert
  exact List.foldlRecOn (motive := fun i : ReferenceIndex => i.definitions.Nodup) additions _ List.nodup_nil
    fun index hIndex entry _ => hAdd index entry.1 entry.2 hIndex

/-- An index counts the full names of the definitions. -/
theorem size_eq_card : (ofList additions).size = ((pairs additions).toFinset.image joined).card := by
  rw [size, ← List.toFinset_card_of_nodup (definitions_nodup additions)]
  congr 1
  ext n
  rw [List.mem_toFinset, mem_definitions_iff, Finset.mem_image]
  exact exists_congr fun p => and_congr_left' List.mem_toFinset.symm

/-- **The index and the pairs.** A reference leads nowhere for the index by the joined parts. That
is what its parts say, for all references that are made in documents that are entered or have no
mark in their ids, exactly if the entries can be told apart when they are joined. The index counts
each definition once exactly if no two have the same full name. If no id has a mark, both is so. -/
theorem judges_by_pairs :
    (∀ reference document, (ofList additions).isUnresolved reference document = true ↔
      head (documentPart reference document) ∈ ids additions ∧
        ∀ p ∈ pairs additions,
          joined p ≠ qualified (documentPart reference document) (namePart reference)) ∧
    ((∀ document, document ∈ ids additions ∨ mark ∉ document.toList → ∀ reference,
      ((ofList additions).isUnresolved reference document = true ↔
        Dangles additions reference document)) ↔ Separable additions) ∧
    ((ofList additions).size = (pairs additions).toFinset.card ↔
      ∀ p ∈ pairs additions, ∀ q ∈ pairs additions, joined p = joined q → p = q) ∧
    ((∀ id ∈ ids additions, mark ∉ id.toList) →
      Separable additions ∧ (ofList additions).size = (pairs additions).toFinset.card) := by
  have hSize : (ofList additions).size = (pairs additions).toFinset.card ↔
      ∀ p ∈ pairs additions, ∀ q ∈ pairs additions, joined p = joined q → p = q := by
    rw [size_eq_card, Finset.card_image_iff]
    simp only [Set.InjOn, List.coe_toFinset, Set.mem_ofPred_eq]
  refine ⟨isUnresolved_iff additions, ⟨?_, ?_⟩, hSize, ?_⟩
  · exact fun h => separable_of_judged fun document hDocument => h document (.inl hDocument)
  · exact fun h document hDocument => h.isUnresolved_iff_dangles hDocument
  · intro hIds
    refine ⟨separable_of_ids hIds, hSize.mpr fun p hp q hq => ?_⟩
    exact joined_inj_of_ids hIds hp (mem_ids_of_mem_pairs hq)

/-- Two documents with plain ids. -/
theorem judges_by_pairs_plain :
    (∀ id ∈ ids [("a", ["x"]), ("b", ["x", "y"])], mark ∉ id.toList) ∧
      Separable [("a", ["x"]), ("b", ["x", "y"])] ∧
      (ofList [("a", ["x"]), ("b", ["x", "y"])]).size =
        (pairs [("a", ["x"]), ("b", ["x", "y"])]).toFinset.card := by
  have hPlain : ∀ id ∈ ids [("a", ["x"]), ("b", ["x", "y"])], mark ∉ id.toList := by decide
  obtain ⟨-, -, -, hIds⟩ := judges_by_pairs [("a", ["x"]), ("b", ["x", "y"])]
  exact ⟨hPlain, hIds hPlain⟩

/-- A document with a mark in its id makes a reference to a definition that it does not have, and
nothing is said. Two definitions that have the same full name are counted as one. -/
theorem marked_unnoticed :
    (Dangles [("a#b", ["x"])] "#y" "a#b" ∧
      (ofList [("a#b", ["x"])]).isUnresolved "#y" "a#b" = false) ∧
    (pairs [("a", ["b#c"]), ("a#b", ["c"])]).toFinset.card = 2 ∧
      (ofList [("a", ["b#c"]), ("a#b", ["c"])]).size = 1 := by
  refine ⟨⟨⟨?_, ?_⟩, ?_⟩, ?_, ?_⟩ <;> decide

end Lexicon.Naming.ReferenceIndex
