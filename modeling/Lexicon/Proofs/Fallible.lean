import Mathlib.Data.List.Forall2
import Lexicon.Value

/-!
# Lexicon — computations that may fail

What a computation of several steps returns is taken apart into what its steps returned.
-/

namespace Lexicon

theorem ok_bind {ε α β : Type} (a : α) (f : α → Except ε β) : (.ok a >>= f) = f a := rfl

/-- What a computation of two steps returns, its second step returns. -/
theorem exists_of_bind_ok {ε α β : Type} {x : Except ε α} {f : α → Except ε β} {b : β}
    (h : (x >>= f) = .ok b) : ∃ a, x = .ok a ∧ f a = .ok b := by
  cases x with
  | error e => cases h
  | ok a => exact ⟨a, rfl, h⟩

/-- What is made of a result is returned where the result is. -/
theorem exists_of_map_ok {ε α β : Type} {x : Except ε α} {f : α → β} {b : β}
    (h : f <$> x = .ok b) : ∃ a, x = .ok a ∧ f a = b := by
  cases x with
  | error e => cases h
  | ok a => exact ⟨a, rfl, Except.ok.inj h⟩

/-- A computation that is seen to succeed, and to pass a test, returns a result that does. -/
theorem exists_of_passes {ε α σ : Type} {run : Except ε α × σ} {test : α → Bool}
    (h : (run.1.map test).toOption = some true) :
    ∃ a state, run = (.ok a, state) ∧ test a = true := by
  obtain ⟨result, state⟩ := run
  cases result with
  | error e => cases h
  | ok a => exact ⟨a, state, rfl, Option.some.inj h⟩

/-- What a list is turned into item by item comes from its items. -/
theorem exists_of_mem_mapM {ε α β : Type} {f : α → Except ε β} {items : List α} {results : List β}
    (h : items.mapM f = .ok results) : ∀ b ∈ results, ∃ a ∈ items, f a = .ok b := by
  induction items generalizing results with
  | nil =>
    cases h
    intro b hb
    cases hb
  | cons a rest ih =>
    rw [List.mapM_cons] at h
    obtain ⟨first, hFirst, h⟩ := exists_of_bind_ok h
    obtain ⟨others, hOthers, h⟩ := exists_of_bind_ok h
    cases h
    intro b hb
    rcases List.mem_cons.mp hb with rfl | hRest
    · exact ⟨a, List.mem_cons_self .., hFirst⟩
    · obtain ⟨x, hx, hfx⟩ := ih hOthers b hRest
      exact ⟨x, List.mem_cons_of_mem _ hx, hfx⟩

/-- Every item can be turned into something, so the list can. -/
theorem exists_mapM_ok {ε α β : Type} {f : α → Except ε β} {items : List α}
    (h : ∀ a ∈ items, ∃ b, f a = .ok b) : ∃ results, items.mapM f = .ok results := by
  induction items with
  | nil => exact ⟨[], rfl⟩
  | cons a rest ih =>
    obtain ⟨first, hFirst⟩ := h a (List.mem_cons_self ..)
    obtain ⟨others, hOthers⟩ := ih fun x hx => h x (List.mem_cons_of_mem _ hx)
    exact ⟨first :: others, by rw [List.mapM_cons, hFirst, hOthers]; rfl⟩

/-- What a list is turned into stands beside it, item by item. -/
theorem forall₂_of_mapM_ok {ε α β : Type} {f : α → Except ε β} {items : List α} {results : List β}
    (h : items.mapM f = .ok results) : List.Forall₂ (fun a b => f a = .ok b) items results := by
  induction items generalizing results with
  | nil =>
    cases h
    exact .nil
  | cons a rest ih =>
    rw [List.mapM_cons] at h
    obtain ⟨first, hFirst, h⟩ := exists_of_bind_ok h
    obtain ⟨others, hOthers, h⟩ := exists_of_bind_ok h
    cases h
    exact .cons hFirst (ih hOthers)

/-- A list whose items are turned into something is turned into these. -/
theorem mapM_of_forall₂ {ε α β : Type} {f : α → Except ε β} {items : List α} {results : List β}
    (h : List.Forall₂ (fun a b => f a = .ok b) items results) : items.mapM f = .ok results := by
  induction h with
  | nil => rfl
  | cons hFirst _ ih =>
    rw [List.mapM_cons, hFirst, ok_bind, ih]
    rfl

/-- A list is turned into the images of its items under a function that tells them beforehand. -/
theorem eq_map_of_mapM_ok {ε α β : Type} {f : α → Except ε β} {told : α → β} {items : List α}
    {results : List β} (h : items.mapM f = .ok results)
    (hTold : ∀ a ∈ items, ∀ b, f a = .ok b → b = told a) : results = items.map told := by
  have hEach := forall₂_of_mapM_ok h
  clear h
  induction hEach with
  | nil => rfl
  | @cons a b _ _ hFirst _ ih =>
    rw [List.map_cons, ← hTold a (List.mem_cons_self ..) b hFirst,
      ih fun x hx => hTold x (List.mem_cons_of_mem _ hx)]

/-- What an item is turned into is among what the list is turned into. -/
theorem exists_mem_of_mapM {ε α β : Type} {f : α → Except ε β} {items : List α} {results : List β}
    (h : items.mapM f = .ok results) {a : α} (ha : a ∈ items) : ∃ b ∈ results, f a = .ok b := by
  obtain ⟨i, hi, rfl⟩ := List.mem_iff_getElem.mp ha
  have hEach := forall₂_of_mapM_ok h
  have hResults : i < results.length := by rwa [← hEach.length_eq]
  exact ⟨results[i], List.getElem_mem hResults, hEach.get hi hResults⟩

end Lexicon
