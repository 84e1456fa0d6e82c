import Lexicon.Proofs.Lookup
import Lexicon.Proofs.Template.Filled

/-!
# Lexicon — texts in place of template files

A text that is added to a store should be filled in place of a file of its name. Whether it is depends
on what was asked of the store before: a file that was found once is found again.

* `Call`, `callAll`        — what can be asked of a store, and the store after that.
* `lastAdded?`             — the text that was added last under a name.
* `UsedFirst`              — was a name looked up before any text was added under it?
* `Follows`                — what is left in a store, by what was added and looked up.
* `called_follows`         — what one call leaves, whatever the store.
* `callAll_follows`        — what any calls leave.
* `callAll_render`         — what is filled after any calls: the text added last, but for a file whose
                             name was looked up first.
* `file_outlives_addition` — a file that is filled though a text was added in its place.
-/

namespace Lexicon.Template.Store

-- ---------------------------------------------------------------------------
-- Calls
-- ---------------------------------------------------------------------------

/-- What can be asked of a store. -/
inductive Call where
  | add (name content : String)
  | render (name : String) (context : Fields)
  | contains (name : String)

namespace Call

/-- The text that a call adds under a name. -/
def added? (name : String) : Call → Option String
  | add other content => if name = other then some content else none
  | _ => none

/-- Does a call look a name up? -/
def LooksUp (name : String) : Call → Prop
  | add _ _ => False
  | render other _ => name = other
  | contains other => name = other

instance (name : String) : (call : Call) → Decidable (call.LooksUp name)
  | add _ _ => .isFalse id
  | render other _ => decEq name other
  | contains other => decEq name other

end Call

/-- The store after a call, whatever it answered. -/
def called (store : Store) : Call → Store
  | .add name content => store.add name content
  | .render name context => (store.render name context).2
  | .contains name => (store.contains name).2

/-- The store after some calls, the first one first. -/
def callAll (store : Store) (calls : List Call) : Store := calls.foldl called store

/-- The text that was added last under a name. -/
def lastAdded? (name : String) : List Call → Option String
  | [] => none
  | call :: rest => (lastAdded? name rest).or (call.added? name)

/-- Was a name looked up before any text was added under it? -/
def UsedFirst (name : String) : List Call → Prop
  | [] => False
  | call :: rest => call.LooksUp name ∨ call.added? name = none ∧ UsedFirst name rest

instance decidableUsedFirst (name : String) : (calls : List Call) → Decidable (UsedFirst name calls)
  | [] => .isFalse id
  | _ :: rest =>
    have := decidableUsedFirst name rest
    inferInstanceAs (Decidable (_ ∨ _ ∧ _))

-- ---------------------------------------------------------------------------
-- One call
-- ---------------------------------------------------------------------------

/-- Is a name looked up among the files, as no text was added under it, and found there? -/
def FindsFile (store : Store) (name : String) : Prop :=
  store.added.lookup name = none ∧ (store.file? name).isSome = true

instance (store : Store) (name : String) : Decidable (store.FindsFile name) :=
  inferInstanceAs (Decidable (_ ∧ _))

/-- What is left after some calls that added some texts, and that looked some names up before any text
was added under them. -/
structure Follows (store : Store) (added? : String → Option String) (used : String → Prop)
    (next : Store) : Prop where
  hasFiles : next.hasFiles = store.hasFiles
  literals : next.literals = store.literals
  added : ∀ name, next.added.lookup name = (added? name).or (store.added.lookup name)
  found : ∀ name, name ∈ next.found ↔ name ∈ store.found ∨ used name ∧ store.FindsFile name

/-- What looking a name up leaves: a file that was found is noted. -/
theorem find_snd (store : Store) (name : String) :
    (store.find name).2 =
      if name ∉ store.found ∧ store.FindsFile name then { store with found := name :: store.found }
      else store := by
  rw [find]
  by_cases hFound : name ∈ store.found
  · rw [if_neg (not_and_of_not_left _ (not_not.mpr hFound)), if_pos (by simpa using hFound)]
    cases hFile : store.file? name with
    | some parts => rfl
    | none => cases store.added.lookup name <;> rfl
  · rw [if_neg (by simpa using hFound)]
    cases hAdded : store.added.lookup name with
    | some content => simp [FindsFile, hAdded]
    | none => cases hFile : store.file? name <;> simp [FindsFile, hAdded, hFile, hFound]

theorem render_snd (store : Store) (name : String) (context : Fields) :
    (store.render name context).2 = (store.find name).2 := by
  rw [render]
  split <;> simp [*]

theorem contains_snd (store : Store) (name : String) :
    (store.contains name).2 = (store.find name).2 := by
  rw [contains]
  split <;> simp [*]

theorem lookup_add (store : Store) (name content other : String) :
    (store.add name content).added.lookup other =
      (if other = name then some content else none).or (store.added.lookup other) := by
  rw [add, lookup_cons_if]
  split
  · rfl
  · rename_i hOther
    rw [lookup_filter fun key => key != name, if_pos (by simpa using hOther), Option.none_or]

/-- Looking a name up adds no text, and notes the name at most. -/
theorem find_follows (store : Store) (name : String) :
    Follows store (fun _ => none) (· = name) (store.find name).2 := by
  rw [find_snd]
  split
  · rename_i hNew
    refine ⟨rfl, rfl, fun _ => rfl, fun other => ?_⟩
    rw [List.mem_cons, or_comm]
    refine or_congr_right ⟨fun hOther => ⟨hOther, hOther ▸ hNew.2⟩, And.left⟩
  · rename_i hOld
    refine ⟨rfl, rfl, fun _ => rfl, fun other => (or_iff_left_of_imp ?_).symm⟩
    rintro ⟨rfl, hFinds⟩
    by_contra hFound
    exact hOld ⟨hFound, hFinds⟩

/-- **What one call leaves**, whatever the store. -/
theorem called_follows (store : Store) (call : Call) :
    Follows store call.added? call.LooksUp (store.called call) := by
  cases call with
  | add name content =>
    refine ⟨rfl, rfl, fun other => lookup_add store name content other, fun other => ?_⟩
    exact (or_iff_left fun hUsed => hUsed.1).symm
  | render name context =>
    rw [called, render_snd]
    exact find_follows store name
  | contains name =>
    rw [called, contains_snd]
    exact find_follows store name

-- ---------------------------------------------------------------------------
-- Any calls
-- ---------------------------------------------------------------------------

/-- Where no call added a text under a name, the same names are found among the files. -/
theorem Follows.findsFile {store next : Store} {added? : String → Option String}
    {used : String → Prop} (h : Follows store added? used next) (name : String) :
    next.FindsFile name ↔ added? name = none ∧ store.FindsFile name := by
  rw [FindsFile, FindsFile, h.added, file?_congr h.hasFiles, Option.or_eq_none_iff, and_assoc]

/-- **What any calls leave**, by induction on the calls. -/
theorem callAll_follows (store : Store) (calls : List Call) :
    Follows store (lastAdded? · calls) (UsedFirst · calls) (store.callAll calls) := by
  induction calls generalizing store with
  | nil => exact ⟨rfl, rfl, fun _ => rfl, fun _ => (or_iff_left fun hUsed => hUsed.1).symm⟩
  | cons call rest ih =>
    have hFirst := called_follows store call
    have hRest := ih (store.called call)
    refine ⟨hRest.hasFiles.trans hFirst.hasFiles, hRest.literals.trans hFirst.literals,
      fun name => ?_, fun name => ?_⟩
    · show (callAll (store.called call) rest).added.lookup name = _
      rw [hRest.added, hFirst.added, lastAdded?, Option.or_assoc]
    · show name ∈ (callAll (store.called call) rest).found ↔ _
      rw [hRest.found, hFirst.found, hFirst.findsFile, UsedFirst, or_assoc, or_and_right,
        ← and_assoc, and_comm (a := UsedFirst name rest)]

/-- What is found where a text was added last. -/
theorem find_fst_of_added {store : Store} {name content : String}
    (h : store.added.lookup name = some content) :
    (store.find name).1 =
      if name ∈ store.found then
        match store.file? name with
        | some parts => .ok parts
        | none => read store.literals content
      else read store.literals content := by
  rw [find, h]
  by_cases hFound : name ∈ store.found
  · rw [if_pos (by simpa using hFound), if_pos hFound]
    cases store.file? name <;> rfl
  · rw [if_neg (by simpa using hFound), if_neg hFound]

/-- **Texts take the place of files, unless these were used first.** Whatever was asked of a new store,
with or without files: the name under which some text was added last is filled with that text, unless
it is the name of a file and was looked up before any text was added under it. In that case the file is
filled, whatever was added. -/
theorem callAll_render (hasFiles literals : Bool) (calls : List Call) {name content : String}
    (hLast : lastAdded? name calls = some content) (context : Fields) :
    let fresh : Store := { hasFiles, literals }
    let filled := ((fresh.callAll calls).render name context).1
    (¬ (UsedFirst name calls ∧ (fresh.file? name).isSome = true) →
      filled = fresh.renderText content context) ∧
    (UsedFirst name calls → ∀ parts, fresh.file? name = some parts →
      filled = renderAll context parts) := by
  intro fresh filled
  have hFollows := callAll_follows fresh calls
  have hAdded : (fresh.callAll calls).added.lookup name = some content := by
    rw [hFollows.added, hLast]
    rfl
  have hFound : name ∈ (fresh.callAll calls).found ↔
      UsedFirst name calls ∧ (fresh.file? name).isSome = true := by
    rw [hFollows.found]
    simp [FindsFile, fresh]
  have hFilled : filled = _ := render_fst_eq_bind (fresh.callAll calls) name context
  rw [hFilled, find_fst_of_added hAdded, file?_congr hFollows.hasFiles, hFollows.literals]
  constructor
  · intro hUnused
    rw [if_neg (hFound.not.mpr hUnused), renderText]
    cases read fresh.literals content <;> rfl
  · intro hUsed parts hParts
    rw [if_pos (hFound.mpr ⟨hUsed, by rw [hParts]; rfl⟩), hParts]
    rfl

/-- A store with the files of a generator, to which nothing was added. -/
def stocked : Store := { hasFiles := true, literals := true }

/-- What the comment for a definition is filled with. -/
def sample : Fields := [("name", .text "q"), ("kind", .text "query")]

/-- The name of a file and another one, added to and looked up in turn. -/
def interleaved : List Call :=
  [.contains "note", .add placeholderName "first", .render placeholderName sample,
   .add "note" "second", .contains "note", .add placeholderName "// \x7b\x7b name \x7d\x7d\n"]

theorem callAll_render_interleaved :
    lastAdded? placeholderName interleaved = some "// \x7b\x7b name \x7d\x7d\n" ∧
    ¬ UsedFirst placeholderName interleaved ∧
    ((stocked.callAll interleaved).render placeholderName sample).1 = .ok "// q\n" := by
  have hLast : lastAdded? placeholderName interleaved = some "// \x7b\x7b name \x7d\x7d\n" := by
    decide
  have hUnused : ¬ UsedFirst placeholderName interleaved := by decide
  have hText : stocked.renderText "// \x7b\x7b name \x7d\x7d\n" sample = .ok "// q\n" := by
    decide +kernel
  obtain ⟨hFilled, -⟩ := callAll_render true true interleaved hLast sample
  exact ⟨hLast, hUnused, (hFilled fun h => hUnused h.1).trans hText⟩

/-- The name of a file, looked up before a text is added under it. -/
def belated : List Call := [.contains placeholderName, .add placeholderName "hello"]

/-- **A file that is filled in place of a text.** -/
theorem file_outlives_addition :
    lastAdded? placeholderName belated = some "hello" ∧
    stocked.renderText "hello" sample = .ok "hello" ∧
    ((stocked.callAll belated).render placeholderName sample).1 =
      .ok "/* q: query - not generated */\n" :=
  ⟨by decide, by decide +kernel, by decide +kernel⟩

end Lexicon.Template.Store
