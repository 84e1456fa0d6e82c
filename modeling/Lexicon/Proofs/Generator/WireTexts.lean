import Lexicon.Proofs.Generator.History
import Lexicon.Proofs.Template.Contained
import Lexicon.Proofs.Text.Layout

/-!
# Lexicon — wire names in the final layout

Attributes keep what identifiers cannot say: the wire names of renamed fields and variants, and
the tag of an enum. They are string literals with every character of their text in them, line
feeds and blanks included, and the layout is brought about afterwards, without regard to literals.

* `wireTexts`              — the texts that the attributes of a declaration keep.
* `declare_within`         — the block of a declaration contains their attributes.
* `settled_serdeAttribute` — an attribute is settled exactly if its text is.
* `process_wireTexts`      — a generated text contains the attributes of all its declarations,
                             and its final layout those of settled texts only.
* `wireText_altered`       — a wire name that the layout alters.
-/

namespace Lexicon.Generator

open Schema Target Text Template

-- ---------------------------------------------------------------------------
-- The texts that attributes keep
-- ---------------------------------------------------------------------------

/-- The wire names of the renamed among some identifiers, with the key of their attribute. -/
def renames (identifiers : List Naming.Identifier) : List (String × String) :=
  (identifiers.filter Naming.Identifier.isRenamed).map fun i => ("rename", i.wireName)

/-- The texts that the attributes of a declaration keep, each with its key: the tag of an enum,
and the wire names of the renamed fields or variants. -/
def wireTexts (g : Generator) : Outline → List (String × String)
  | .struct name _ schema =>
    renames (g.scope.clear.identifyAll g.style
      ((fieldOutlines g.types name schema).map FieldOutline.wireName)).1
  | .enum _ _ variants =>
    ("tag", g.settings.unionTag.display) ::
      renames (g.scope.clear.identifyAll .original variants).1
  | .placeholder _ _ => []

theorem Sound.wireTexts_eq {s : Settings} {g h : Generator} (hg : Sound s g) (hh : Sound s h)
    (outline : Outline) : g.wireTexts outline = h.wireTexts outline := by
  cases outline with
  | struct name description schema =>
    rw [wireTexts, wireTexts, hg.types_eq hh, hg.style_eq hh, hg.identifyAll_eq hh]
  | enum name description variants =>
    rw [wireTexts, wireTexts, hg.settings_eq hh, hg.identifyAll_eq hh]
  | placeholder name kind => rfl

theorem key_of_wireTexts {g : Generator} {outline : Outline} :
    ∀ a ∈ g.wireTexts outline, a.1 = "rename" ∨ a.1 = "tag" := by
  have hRenames : ∀ identifiers, ∀ a ∈ renames identifiers, a.1 = "rename" ∨ a.1 = "tag" := by
    intro identifiers a ha
    obtain ⟨i, -, rfl⟩ := List.mem_map.mp ha
    exact Or.inl rfl
  intro a ha
  cases outline with
  | struct name description schema => exact hRenames _ a ha
  | enum name description variants =>
    rcases List.mem_cons.mp ha with rfl | hLater
    · exact Or.inr rfl
    · exact hRenames _ a hLater
  | placeholder name kind => cases ha

-- ---------------------------------------------------------------------------
-- The block of a declaration
-- ---------------------------------------------------------------------------

/-- What is written for a renamed identifier has the attribute of its wire name. -/
theorem mem_renameAttributes {identifier : Naming.Identifier} (h : identifier.isRenamed = true) :
    .text (serdeAttribute "rename" identifier.wireName) ∈
      (renameAttributes identifier).map Value.text := by
  rw [renameAttributes, if_pos h]
  exact List.mem_singleton.mpr rfl

/-- The attribute that tells the variants of an enum apart, as its template has it. -/
theorem serdeAttribute_tag (value : String) :
    serdeAttribute "tag" value = "#[serde(tag = " ++ literal value ++ ")]" := by
  rw [serdeAttribute, show "#[serde(" ++ "tag" ++ " = " = "#[serde(tag = " by decide]

/-- Each renamed field of a struct has the attribute of its wire name. -/
theorem fieldList_attribute {s : Settings} {g : Generator} (hSound : Sound s g) {name : String}
    {description : Option String} {schema : ObjectSchema} {a : String × String}
    (ha : a ∈ g.wireTexts (.struct name description schema)) :
    ∃ entries attributes, .mapping entries ∈ g.fieldList name schema ∧
      entries.lookup "attributes" = some (.list attributes) ∧
      .text (serdeAttribute a.1 a.2) ∈ attributes := by
  obtain ⟨i, hi, rfl⟩ := List.mem_map.mp ha
  obtain ⟨hMem, hIs⟩ := List.mem_filter.mp hi
  -- there are as many identifiers as fields, so the identifier has its field
  have hClear : g.scope.clear.Faithful := hSound.faithful
  obtain ⟨hHandsOut, -⟩ := Naming.identifyAll_handsOut hClear g.style
    ((fieldOutlines g.types name schema).map FieldOutline.wireName)
  have hLength := congrArg List.length hHandsOut.wireNames_eq
  rw [List.length_map, List.length_map] at hLength
  obtain ⟨k, hk, rfl⟩ := List.mem_iff_getElem.mp hMem
  refine ⟨_, _, List.mem_iff_getElem.mpr ⟨k, ?_, List.getElem_zipWith⟩, rfl, ?_⟩
  · rw [fieldList, List.length_zipWith]
    omega
  · rw [List.map_append]
    exact List.mem_append_left _ (mem_renameAttributes hIs)

/-- **The block of a declaration** contains the attributes of the texts that it keeps. -/
theorem declare_within {s : Settings} {g : Generator} (hSound : Sound s g) {outline : Outline}
    {block : String} (h : (g.declare outline).1 = .ok block) :
    ∀ a ∈ g.wireTexts outline, Within (serdeAttribute a.1 a.2) block := by
  have hStore := hSound.store
  intro a ha
  have hShown : (Value.text (serdeAttribute a.1 a.2)).display = serdeAttribute a.1 a.2 := by
    rw [Value.display]
  cases outline with
  | struct name description schema =>
    rw [declare_struct] at h
    dsimp only at h
    split at h
    · cases h
    · rename_i indent hIndent
      have hText := renderAll_of_render h hStore hStore.file?_struct
      have hFields : (g.structContext name description schema indent).lookup "fields" =
          some (.list (g.fieldList name schema)) := rfl
      obtain ⟨entries, attributes, hField, hAttributes, hLine⟩ := fieldList_attribute hSound ha
      have hFound := structTemplate_within hText hFields hField hAttributes hLine
      rwa [hShown] at hFound
  | enum name description variants =>
    rw [declare_enum] at h
    dsimp only at h
    split at h
    · cases h
    · rename_i indent hIndent
      have hText := renderAll_of_render h hStore hStore.file?_enum
      rcases List.mem_cons.mp ha with rfl | hRenamed
      · have hTag : (g.enumContext name description variants indent).lookup "tag" =
            some g.settings.unionTag := rfl
        rw [serdeAttribute_tag]
        exact enumTemplate_within_tag hText hTag
      · have hVariants : (g.enumContext name description variants indent).lookup "variants" =
            some (.list ((g.scope.clear.identifyAll .original variants).1.map variantValue)) := rfl
        obtain ⟨i, hi, rfl⟩ := List.mem_map.mp hRenamed
        obtain ⟨hMem, hIs⟩ := List.mem_filter.mp hi
        have hVariant := List.mem_map_of_mem (f := variantValue) hMem
        have hFound := enumTemplate_within hText hVariants hVariant rfl (mem_renameAttributes hIs)
        rwa [hShown] at hFound
  | placeholder name kind => cases ha

-- ---------------------------------------------------------------------------
-- Settled literals
-- ---------------------------------------------------------------------------

/-- What stands for a character in a literal opens with a line feed only for a line feed. -/
theorem breaks_prefix_flatMap {breaks : List Char} (hBreaks : ∀ c ∈ breaks, c = '\n')
    (text : List Char) : breaks <+: text.flatMap escaped ↔ breaks <+: text := by
  induction text generalizing breaks with
  | nil => rfl
  | cons c rest ih =>
    cases breaks with
    | nil => simp
    | cons d more =>
      obtain rfl : d = '\n' := hBreaks d (List.mem_cons_self ..)
      have hMore := ih fun x hx => hBreaks x (List.mem_cons_of_mem _ hx)
      rw [List.flatMap_cons, escaped]
      split
      · rename_i hBackslash
        subst hBackslash
        simp [List.cons_prefix_cons]
      · split
        · rename_i hQuote
          subst hQuote
          simp [List.cons_prefix_cons]
        · rw [List.singleton_append, List.cons_prefix_cons, List.cons_prefix_cons, hMore]

/-- Escaping settles nothing and unsettles nothing. -/
theorem settled_flatMap_escaped (text : List Char) :
    Settled (text.flatMap escaped) ↔ Settled text := by
  induction text with
  | nil => rfl
  | cons c rest ih =>
    have hBackslash : isBlank '\\' = false := by decide
    have hQuote : isBlank '"' = false := by decide
    rw [List.flatMap_cons, escaped]
    split
    · rename_i hSame
      subst hSame
      simp [settled_cons_iff, hBackslash, ih]
    · split
      · rename_i hSame
        subst hSame
        simp [settled_cons_iff, hBackslash, hQuote, ih]
      · rw [List.singleton_append, settled_cons_iff, settled_cons_iff, ih,
          breaks_prefix_flatMap (by simp), breaks_prefix_flatMap (by simp)]

/-- A literal between texts that are settled is settled, as a whole, exactly if its text is. -/
theorem settled_quoted {opening closing : List Char} (hOpening : Settled opening)
    (hClosing : Settled closing) (text : List Char) :
    Settled (opening ++ '"' :: (text.flatMap escaped ++ '"' :: closing)) ↔ Settled text := by
  have hQuote : isBlank '"' = false := by decide
  rw [settled_append_cons hQuote, settled_append_cons hQuote, settled_flatMap_escaped]
  exact ⟨fun h => h.2.1, fun h => ⟨hOpening, h, hClosing⟩⟩

/-- **An attribute is settled** exactly if its text is. -/
theorem settled_serdeAttribute {key : String} (hKey : '\n' ∉ key.toList) (value : String) :
    Settled (serdeAttribute key value).toList ↔ Settled value.toList := by
  have hChars : (serdeAttribute key value).toList = ("#[serde(" ++ key ++ " = ").toList ++
      '"' :: (value.toList.flatMap escaped ++ '"' :: [')', ']']) := by
    rw [serdeAttribute, literal]
    simp [String.toList_append]
  have hOpening : Settled ("#[serde(" ++ key ++ " = ").toList := by
    refine settled_of_not_mem ?_
    simpa [String.toList_append] using hKey
  rw [hChars, settled_quoted hOpening (settled_of_not_mem (by decide))]

theorem settled_literal (value : String) :
    Settled (literal value).toList ↔ Settled value.toList := by
  have hNil : Settled [] := settled_of_not_mem (by simp)
  have hChars : (literal value).toList =
      [] ++ '"' :: (value.toList.flatMap escaped ++ '"' :: []) := by
    rw [literal]
    simp
  rw [hChars, settled_quoted hNil hNil]

-- ---------------------------------------------------------------------------
-- The final layout
-- ---------------------------------------------------------------------------

/-- A piece between two characters that are not blank is still there after the layout exactly if
it is settled. -/
theorem within_layout_iff {piece text : String} (hWithin : Within piece text) {first last : Char}
    (hFirst : piece.toList.head? = some first) (hOpens : isBlank first = false)
    (hLast : piece.toList.getLast? = some last) (hCloses : isBlank last = false) :
    Within piece (layout text) ↔ Settled piece.toList := by
  rw [Within, layout, String.toList_ofList]
  exact infix_tidy_iff hWithin hFirst hOpens hLast hCloses

theorem serdeAttribute_within_layout_iff {key value text : String} (hKey : '\n' ∉ key.toList)
    (hWithin : Within (serdeAttribute key value) text) :
    Within (serdeAttribute key value) (layout text) ↔ Settled value.toList := by
  have hFirst : (serdeAttribute key value).toList.head? = some '#' := by
    simp [serdeAttribute, String.toList_append]
  have hLast : (serdeAttribute key value).toList.getLast? = some ']' := by
    refine List.getLast?_eq_some_iff.mpr
      ⟨("#[serde(" ++ key ++ " = " ++ literal value ++ ")").toList, ?_⟩
    simp [serdeAttribute, String.toList_append]
  rw [within_layout_iff hWithin hFirst (by decide) hLast (by decide),
    settled_serdeAttribute hKey]

theorem literal_within_layout_iff {value text : String} (hWithin : Within (literal value) text) :
    Within (literal value) (layout text) ↔ Settled value.toList := by
  have hQuote : isBlank '"' = false := by decide
  have hFirst : (literal value).toList.head? = some '"' := by simp [literal]
  have hLast : (literal value).toList.getLast? = some '"' :=
    List.getLast?_eq_some_iff.mpr ⟨'"' :: value.toList.flatMap escaped, by simp [literal]⟩
  rw [within_layout_iff hWithin hFirst hQuote hLast hQuote, settled_literal]

/-- A literal stands in its attribute. -/
theorem literal_within_serdeAttribute (key value : String) :
    Within (literal value) (serdeAttribute key value) :=
  (within_append_right ..).trans (within_append_left ..)

/-- **Wire names in the final layout.** The text of a document contains, for each of its
declarations, the attributes of the tag and of all wire names that identifiers do not say. In the
final layout each of these attributes, and likewise its literal, is still there exactly if the
text that it keeps is settled: no line of it ends in a blank, and it has no three line feeds in a
row. -/
theorem process_wireTexts {s : Settings} {g : Generator} (hReach : Reachable s g)
    {payload : Payload} {index : Option Naming.ReferenceIndex} {result : Generated}
    {g' : Generator} (h : g.process payload index = (.ok result, g')) :
    ∃ document text, Document.decode payload = .ok document ∧
      (g.generate document).1 = .ok text ∧
      Written s document (outlines (g.documentPlan document)) text ∧ result.code = layout text ∧
      ∀ outline ∈ outlines (g.documentPlan document), ∀ a ∈ g.wireTexts outline,
        Within (serdeAttribute a.1 a.2) text ∧
        (Within (serdeAttribute a.1 a.2) result.code ↔ Settled a.2.toList) ∧
        (Within (literal a.2) result.code ↔ Settled a.2.toList) := by
  have hResult : (g.process payload index).1 = .ok result := by rw [h]
  obtain ⟨document, text, hDecode, hText, hCode⟩ := process_code hReach hResult
  have hRun : g.generate document = (.ok text, (g.generate document).2) := by rw [← hText]
  obtain ⟨hWritten, -⟩ := generate_written hReach hRun
  refine ⟨document, text, hDecode, hText, hWritten, hCode, ?_⟩
  intro outline hOutline a ha
  obtain ⟨head, blocks, -, hBlocks, hJoined⟩ := hWritten
  -- the block of the declaration was written in some state of the generator
  obtain ⟨k, hk, rfl⟩ := List.mem_iff_getElem.mp hOutline
  have hBlock : k < blocks.length := by rwa [← hBlocks.length_eq]
  obtain ⟨-, writer, hWriter, hDeclared⟩ := hBlocks.get hk hBlock
  rw [hReach.sound.wireTexts_eq hWriter.sound] at ha
  have hKey : '\n' ∉ a.1.toList := by
    rcases key_of_wireTexts a ha with hRename | hTag
    · rw [hRename]; decide
    · rw [hTag]; decide
  have hWithin : Within (serdeAttribute a.1 a.2) text := by
    have hOwn := declare_within hWriter.sound hDeclared a ha
    rw [hJoined]
    exact hOwn.trans (within_intercalate (List.mem_append_right _ (List.getElem_mem hBlock)))
  rw [hCode]
  exact ⟨hWithin, serdeAttribute_within_layout_iff hKey hWithin,
    literal_within_layout_iff ((literal_within_serdeAttribute ..).trans hWithin)⟩

/-- A document with a property whose name has a line feed after a blank. -/
def spaced : Document :=
  { lexicon := 1, id := "a.b", revision := none, description := none
    definitions := [("P", .object (.mk none [("a \nb", .leaf none .cidLink)] [] []))] }

theorem process_wireTexts_spaced : ∃ result g',
    plain.process (.document spaced) none = (.ok result, g') ∧
    ∃ document text, Document.decode (.document spaced) = .ok document ∧
      (plain.generate document).1 = .ok text ∧
      Written {} document (outlines (plain.documentPlan document)) text ∧
      result.code = layout text ∧
      ∀ outline ∈ outlines (plain.documentPlan document), ∀ a ∈ plain.wireTexts outline,
        Within (serdeAttribute a.1 a.2) text ∧
        (Within (serdeAttribute a.1 a.2) result.code ↔ Settled a.2.toList) ∧
        (Within (literal a.2) result.code ↔ Settled a.2.toList) := by
  have hOk : ((plain.process (.document spaced) none).1.map fun _ => true).toOption =
      some true := by decide +kernel
  obtain ⟨result, g', hRun, -⟩ := exists_of_passes hOk
  exact ⟨result, g', hRun, process_wireTexts (.built build_plain) hRun⟩

/-- **A wire name that is altered.** The generated text keeps the name with its blank; in the
final layout the attribute of the same field keeps another name. -/
theorem wireText_altered : ∃ text result g',
    (plain.generate spaced).1 = .ok text ∧
    plain.process (.document spaced) none = (.ok result, g') ∧
    text = "#[derive(Debug, Clone, Serialize, Deserialize)]\npub struct P \x7b\n    " ++
      serdeAttribute "rename" "a \nb" ++ "\n    pub a__b: Option<String>,\n\x7d\n" ∧
    result.code = "#[derive(Debug, Clone, Serialize, Deserialize)]\npub struct P \x7b\n    " ++
      serdeAttribute "rename" "a\nb" ++ "\n    pub a__b: Option<String>,\n\x7d\n" ∧
    ¬ Within (literal "a \nb") result.code := by
  have hText : ((plain.generate spaced).1.map fun text => decide (
      text = "#[derive(Debug, Clone, Serialize, Deserialize)]\npub struct P \x7b\n    " ++
        serdeAttribute "rename" "a \nb" ++
        "\n    pub a__b: Option<String>,\n\x7d\n")).toOption = some true := by decide +kernel
  have hCode : ((plain.process (.document spaced) none).1.map fun result => decide (
      result.code = "#[derive(Debug, Clone, Serialize, Deserialize)]\npub struct P \x7b\n    " ++
        serdeAttribute "rename" "a\nb" ++
        "\n    pub a__b: Option<String>,\n\x7d\n")).toOption = some true := by decide +kernel
  obtain ⟨text, after, hGenerated, hKept⟩ := exists_of_passes hText
  obtain ⟨result, g', hRun, hFinal⟩ := exists_of_passes hCode
  have hLost : ¬ Within (literal "a \nb") result.code := by
    obtain ⟨_, _, -, -, hLayout, -⟩ := process_written (.built build_plain) hRun
    rw [hLayout, Within, layout, String.toList_ofList]
    intro hPiece
    have hSettled := (settled_literal _).mp ((settled_tidy _).piece hPiece)
    exact hSettled.trimmed ' ' rfl (by decide) ⟨['a'], ['b'], rfl⟩
  exact ⟨text, result, g', by rw [hGenerated], hRun, of_decide_eq_true hKept,
    of_decide_eq_true hFinal, hLost⟩

end Lexicon.Generator
