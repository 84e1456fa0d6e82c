import Lexicon.Proofs.Settings.Layers
import Lexicon.Proofs.Settings.Stored
import Lexicon.Proofs.Yaml.Keys

/-!
# Lexicon — which source a setting comes from

Settings come from the caller, from a file, and from the defaults of a language. For each
setting the first of the three that gives it should be the one that counts; a setting that
is not one of the names may be given in either layer of a source.

* `Settings.given?`, `default?`, `prescribed` — the value that each source gives, that of the
                                       language, and the one that should count.
* `Settings.get?`                    — the value that some settings hold.
* `Settings.Outranked`               — the caller gives a setting inside of the custom ones,
                                       and the file gives it beside them.
* `Settings.load_precedence`         — the settings hold what is prescribed, but for those
                                       that are outranked: there the file wins.
* `Settings.file_outranks_caller`, `null_drops_defaults` — what goes wrong: the two spellings
                                       in two sources, and custom settings that are null.

Nothing is said of sources whose custom settings are no mapping: they take the place of the
mapping they are laid over, the defaults of the language included.
-/

namespace Lexicon.Settings

open Lexicon.Source

-- ---------------------------------------------------------------------------
-- What the sources give
-- ---------------------------------------------------------------------------

/-- The value that a source gives for a setting. One that is not among the names may stand
beside the custom settings or inside of them. -/
def given? (fields : Fields) (key : String) : Option Value :=
  if names.contains key then fields.lookup key
  else (fields.lookup key).or ((inner fields).lookup key)

/-- The value of a setting that no source gives. -/
def default? (language key : String) : Option Value :=
  (given? (defaultsFor language) key).or (({} : Settings).plain.lookup key)

/-- The value that should count: what the caller gives, or else the file, or else the
language. -/
def prescribed (language : String) (file changes : Fields) (key : String) : Option Value :=
  (given? changes key).or ((given? file key).or (default? language key))

/-- The value that some settings hold for a setting. -/
def get? (settings : Settings) (key : String) : Except Mismatch (Option Value) :=
  if names.contains key then .ok (settings.plain.lookup key) else settings.custom? key

/-- The settings in a file, if there is a file. -/
def fileFields (files : Tree) : Option Location → Except SettingsFault Fields
  | none => .ok []
  | some location => fromFile files location

/-- The file gives a setting beside the custom ones, and the caller gives it inside of them
only. -/
def Outranked (file changes : Fields) (key : String) : Prop :=
  isName key = false ∧ (file.lookup key).isSome ∧ changes.lookup key = none ∧
    ((inner changes).lookup key).isSome

-- ---------------------------------------------------------------------------
-- The sources, laid over each other
-- ---------------------------------------------------------------------------

theorem defaultsFor_storable (language : String) :
    (Value.mapping (defaultsFor language)).Storable := by
  have hNil : (Value.mapping []).Storable := .mapping List.nodup_nil fun _ he => by cases he
  have hDerives : defaultDerives.Storable := by
    refine .list ?_
    intro v hv
    simp only [List.mem_cons, List.not_mem_nil, or_false] at hv
    rcases hv with rfl | rfl | rfl | rfl <;> exact .text
  rw [defaultsFor]
  split
  · refine .mapping (by decide) ?_
    intro e he
    simp only [List.mem_cons, List.not_mem_nil, or_false] at he
    rcases he with rfl | rfl | rfl | rfl | rfl
    · exact .text
    · exact hDerives
    · exact .text
    · exact .bool
    · refine .mapping (by decide) ?_
      intro e he
      simp only [List.mem_cons, List.not_mem_nil, or_false] at he
      rcases he with rfl | rfl | rfl | rfl | rfl <;> exact .text
  · exact hNil

theorem defaultsFor_keyed (language : String) : Fields.Keyed (defaultsFor language) :=
  (defaultsFor_storable language).keyed.entries

theorem defaultsFor_nested (language : String) : Nested (defaultsFor language) := by
  intro v hv
  rw [defaultsFor] at hv
  split at hv
  · exact ⟨_, (Option.some.inj hv).symm⟩
  · cases hv

/-- The defaults of a language hold nothing but names beside their custom settings. -/
theorem defaultsFor_lookup {key : String} (hName : isName key = false) (language : String) :
    (defaultsFor language).lookup key = none := by
  refine lookup_eq_none_of_not_mem ?_
  intro hMem
  have hAll : ∀ name ∈ (defaultsFor language).map Prod.fst, isName name = true := by
    rw [defaultsFor]
    split
    · decide
    · intro name hName
      cases hName
  rw [hAll key hMem] at hName
  cases hName

theorem ne_customName_of_isName {key : String} (hName : isName key = false) :
    key ≠ customName :=
  beq_eq_false_iff_ne.mp (Bool.or_eq_false_iff.mp hName).2

/-- Beside the custom settings there are none but the names. -/
theorem plain_lookup_other {key : String} (hName : isName key = false) (settings : Settings) :
    settings.plain.lookup key = none := by
  refine lookup_eq_none_of_not_mem ?_
  intro hMem
  have hMem' : key ∈ names := hMem
  rw [isName_of_mem (List.contains_iff_mem.mpr hMem')] at hName
  cases hName

/-- What is not among the names has its default among the custom settings of the language. -/
theorem default_other {key : String} (hName : isName key = false) (language : String) :
    default? language key = (inner (defaultsFor language)).lookup key := by
  have hOther : names.contains key = false := (Bool.or_eq_false_iff.mp hName).1
  rw [default?, given?, hOther, defaultsFor_lookup hName, plain_lookup_other hName]
  simp

theorem fileFields_keyed {files : Tree} {file : Option Location} {fields : Fields}
    (h : fileFields files file = .ok fields) : Fields.Keyed fields := by
  cases file with
  | none =>
    cases h
    exact Fields.keyed_nil
  | some location => exact fromFile_settings_keyed h

theorem load_eq (files : Tree) (language : String) (file : Option Location) (changes : Value) :
    load files language file changes = fileFields files file >>= fun fields =>
      match combine language fields changes with
      | .ok settings => return settings
      | .error fault => .error (.mismatch fault) := by
  cases file <;> rfl

/-- What is loaded is gathered from the caller's settings over those of the file over the
defaults of the language. -/
theorem combine_gathers (language : String) {fields changes : Fields}
    (hFieldsKeyed : Fields.Keyed fields) (hFields : Nested fields)
    (hKeyed : Fields.Keyed changes) (hChanges : Nested changes) :
    ∃ middle top settings, combine language fields (.mapping changes) = .ok settings ∧
      Overlays (defaultsFor language) fields middle ∧ Overlays middle changes top ∧
      Gathers top settings := by
  obtain ⟨middle, hMiddle, hOverFile⟩ := override_overlays (defaultsFor_keyed language)
    (defaultsFor_nested language) hFieldsKeyed hFields
  obtain ⟨top, hTop, hOverCaller⟩ := override_overlays hOverFile.keyed hOverFile.nested
    hKeyed hChanges
  obtain ⟨settings, hGather, hGathers⟩ := gather_gathers hOverCaller.keyed hOverCaller.nested
  refine ⟨middle, top, settings, ?_, hOverFile, hOverCaller, hGathers⟩
  rw [combine, hMiddle, ok_bind, overrideWith, hTop, ok_bind, hGather]

-- ---------------------------------------------------------------------------
-- Precedence
-- ---------------------------------------------------------------------------

/-- A setting that is one of the names has its prescribed value, whatever the custom settings
of the sources are. -/
theorem get_name {language : String} {fields changes : Fields} {settings : Settings}
    (hFields : Fields.Keyed fields) (hChanges : Fields.Keyed changes)
    (h : combine language fields (.mapping changes) = .ok settings) {key : String}
    (hName : names.contains key = true) :
    settings.get? key = .ok (prescribed language fields changes key) := by
  have hNe : ∀ fields : Fields, key = customName → ∀ own, fields.lookup key ≠ some (.mapping own) :=
    fun _ hEq => absurd hEq (ne_customName_of_mem hName)
  rw [combine] at h
  obtain ⟨middle, hMiddle, h⟩ := exists_of_bind_ok h
  obtain ⟨top, hTop, h⟩ := exists_of_bind_ok h
  rw [overrideWith] at hTop
  rw [get?, if_pos hName, gather_plain h hName, override_top hChanges.1 hTop (hNe _),
    override_top hFields.1 hMiddle (hNe _)]
  simp only [prescribed, default?, given?, if_pos hName, Option.or_assoc]

/-- Any other setting has the first value among those beside the custom settings, and then
those inside of them. -/
theorem get_other {language : String} {fields changes middle top : Fields} {settings : Settings}
    (hOverFile : Overlays (defaultsFor language) fields middle)
    (hOverCaller : Overlays middle changes top) (hGathers : Gathers top settings) {key : String}
    (hName : isName key = false) :
    settings.get? key = .ok (((changes.lookup key).or (fields.lookup key)).or
      (((inner changes).lookup key).or (((inner fields).lookup key).or (default? language key)))) := by
  obtain ⟨own, hCustom, -, hOwn⟩ := hGathers.custom
  have hOther : names.contains key = false := (Bool.or_eq_false_iff.mp hName).1
  have hNe : key ≠ customName := ne_customName_of_isName hName
  rw [get?, hOther, custom?, hCustom, default_other hName]
  show Except.ok (own.lookup key) = _
  rw [hOwn, hName, hOverCaller.top key hNe, hOverFile.top key hNe, hOverCaller.custom,
    hOverFile.custom, defaultsFor_lookup hName]
  simp [Option.or_assoc]

/-- The caller's inner value meets an outer value of the file only where it is outranked; in all
other cases the order of looking up is the one that is prescribed. -/
theorem lookups_eq_prescribed {language key : String} {fields changes : Fields}
    (hName : isName key = false) (hClear : ¬ Outranked fields changes key) :
    ((changes.lookup key).or (fields.lookup key)).or (((inner changes).lookup key).or
        (((inner fields).lookup key).or (default? language key)))
      = prescribed language fields changes key := by
  have hOther : names.contains key = false := (Bool.or_eq_false_iff.mp hName).1
  rw [prescribed, given?, given?, hOther]
  cases hOuter : changes.lookup key with
  | some v => simp
  | none =>
    cases hInner : (inner changes).lookup key with
    | none => simp [Option.or_assoc]
    | some v =>
      have hFileNone : fields.lookup key = none := by
        by_contra hSome
        have hGiven := Option.isSome_iff_ne_none.mpr hSome
        exact hClear ⟨hName, hGiven, hOuter, by rw [hInner]; rfl⟩
      simp [hFileNone]

/--
**Precedence of settings**: whatever the files hold, the settings that are loaded have for
every setting the value that the caller gives, or else the one of the file, or else the one
of the language. Of the settings that are not among the names, this is said where the custom
settings of the sources are mappings; and those that are outranked have the value of the file.
-/
theorem load_precedence (files : Tree) (language : String) (file : Option Location)
    {fields changes : Fields} (hFile : fileFields files file = .ok fields)
    (hKeyed : Fields.Keyed changes) :
    (∀ settings, load files language file (.mapping changes) = .ok settings →
      ∀ key, names.contains key = true →
        settings.get? key = .ok (prescribed language fields changes key)) ∧
    (Nested fields → Nested changes →
      ∃ settings, load files language file (.mapping changes) = .ok settings ∧
        ∀ key, isName key = false →
          (¬ Outranked fields changes key →
            settings.get? key = .ok (prescribed language fields changes key)) ∧
          (Outranked fields changes key → settings.get? key = .ok (fields.lookup key))) := by
  have hFields := fileFields_keyed hFile
  have hLoad : load files language file (.mapping changes)
      = match combine language fields (.mapping changes) with
        | .ok settings => return settings
        | .error fault => .error (.mismatch fault) := by
    rw [load_eq, hFile, ok_bind]
  constructor
  · intro settings h key hName
    rw [hLoad] at h
    split at h
    · next hCombine =>
      cases h
      exact get_name hFields hKeyed hCombine hName
    · cases h
  · intro hNested hChanges
    obtain ⟨middle, top, settings, hCombine, hOverFile, hOverCaller, hGathers⟩ :=
      combine_gathers language hFields hNested hKeyed hChanges
    refine ⟨settings, by rw [hLoad, hCombine]; rfl, ?_⟩
    intro key hName
    have hGet := get_other hOverFile hOverCaller hGathers hName
    constructor
    · intro hClear
      rw [hGet, lookups_eq_prescribed hName hClear]
    · rintro ⟨-, hSome, hOuter, -⟩
      obtain ⟨v, hv⟩ := Option.isSome_iff_exists.mp hSome
      rw [hGet, hOuter, hv]
      rfl

-- ---------------------------------------------------------------------------
-- Two spellings in two sources
-- ---------------------------------------------------------------------------

/-- Two settings, one of them custom and beside the others. -/
def flatFields : Fields := [("int_type", .text "u8"), ("union_tag", .text "kind")]

/-- A file that holds them. -/
def flatFile : Tree :=
  { entries := [([".", "f.json"],
      .file (Encoding.Utf8.encode (Json.write (.mapping flatFields))))] }

/-- The same custom setting, given by the caller inside of the custom settings. -/
def nestedChanges : Fields :=
  [(customName, .mapping [("int_type", .text "u16")]), ("field_case", .text "snake")]

theorem fileFields_flatFile :
    fileFields flatFile (some (Location.read "f.json")) = .ok flatFields := by
  have hKeys : (flatFields.map Prod.fst).Nodup := by decide
  have hFile : flatFile.find (Location.read "f.json")
      = some (.file (Encoding.Utf8.encode (Json.write (.mapping flatFields)))) := by
    rw [Tree.find, show flatFile.walk (Location.read "f.json") = .place ["f.json", "."] from rfl]
    rfl
  refine fromFile_stored (.mapping hKeys ?_) hFile
  intro e he
  simp only [flatFields, List.mem_cons, List.not_mem_nil, or_false] at he
  rcases he with rfl | rfl <;> exact .text

theorem load_precedence_flat :
    ∃ settings, load flatFile "rust" (some (Location.read "f.json")) (.mapping nestedChanges)
        = .ok settings ∧
      settings.get? "field_case" = .ok (some (.text "snake")) ∧
      settings.get? "union_tag" = .ok (some (.text "kind")) ∧
      settings.get? "indent_size" = .ok (some (.int 4)) ∧
      settings.get? "bool_type" = .ok (some (.text "bool")) ∧
      settings.get? "int_type" = .ok (some (.text "u8")) := by
  have hKeyed : Fields.Keyed nestedChanges := by
    refine ⟨by decide, ?_⟩
    intro e he
    simp only [nestedChanges, List.mem_cons, List.not_mem_nil, or_false] at he
    rcases he with rfl | rfl
    · refine .mapping (by decide) ?_
      intro e he
      rw [List.mem_singleton.mp he]
      exact .text
    · exact .text
  have hFields : Nested flatFields := by
    intro v hv
    cases hv
  have hChanges : Nested nestedChanges := fun v hv => ⟨_, (Option.some.inj hv).symm⟩
  obtain ⟨hNames, hLoads⟩ := load_precedence flatFile "rust" (some (Location.read "f.json"))
    fileFields_flatFile hKeyed
  obtain ⟨settings, hLoad, hOthers⟩ := hLoads hFields hChanges
  refine ⟨settings, hLoad, ?_, ?_, ?_, ?_, ?_⟩
  · exact hNames settings hLoad "field_case" (by decide)
  · exact hNames settings hLoad "union_tag" (by decide)
  · exact hNames settings hLoad "indent_size" (by decide)
  · have hClear : ¬ Outranked flatFields nestedChanges "bool_type" := by
      rintro ⟨-, hSome, -⟩
      cases hSome
    exact (hOthers "bool_type" (by decide)).1 hClear
  · exact (hOthers "int_type" (by decide)).2 ⟨by decide, rfl, rfl, rfl⟩

/-- **The caller's value should count, and that of the file does.** -/
theorem file_outranks_caller :
    prescribed "rust" flatFields nestedChanges "int_type" = some (.text "u16") ∧
    ∃ settings, load flatFile "rust" (some (Location.read "f.json")) (.mapping nestedChanges)
        = .ok settings ∧
      settings.get? "int_type" = .ok (some (.text "u8")) := by
  obtain ⟨settings, hCombine, hGet⟩ :
      ∃ settings, combine "rust" flatFields (.mapping nestedChanges) = .ok settings ∧
        settings.get? "int_type" = .ok (some (.text "u8")) := ⟨_, rfl, rfl⟩
  refine ⟨rfl, settings, ?_, hGet⟩
  rw [load_eq, fileFields_flatFile, ok_bind, hCombine]
  rfl

/-- **Custom settings that are null take those of the language away.** -/
theorem null_drops_defaults (files : Tree) :
    prescribed "rust" [] [(customName, .null), ("blob_type", .text "B")] "int_type"
      = some (.text "i64") ∧
    ∃ settings, load files "rust" none (.mapping [(customName, .null), ("blob_type", .text "B")])
        = .ok settings ∧
      settings.get? "int_type" = .ok none :=
  ⟨rfl, _, rfl, rfl⟩

end Lexicon.Settings
