import Lexicon.Proofs.Generator.Shape
import Lexicon.Proofs.Generator.Success
import Lexicon.Proofs.Text.BlockComment
import Lexicon.Proofs.Text.Comments

/-!
# Lexicon — the remark at the head of a file

The head of a file begins with a remark that names the document it was generated from. The id of a
document is an arbitrary text, and the remark is a comment that ends with its line, while the id is
prepared for comments of the other sort.

* `remark`             — the remark, and `IsRemark` says what it is meant to be.
* `isRemark_iff`, `exists_isRemark_iff` — it is so exactly if the id has no line feed.
* `infix_remark_iff`   — when the id stands in it as it is.
* `prelude_remark`     — the head of a file, and a file with such a head.
* `parted_outside`     — an id with a line feed, of which a part stands in the code.
-/

namespace Lexicon.Generator

open Schema Target Template Text

-- ---------------------------------------------------------------------------
-- The remark
-- ---------------------------------------------------------------------------

/-- The first line of a head, if it is one. -/
def remark (id : String) : String :=
  "// Code generated by lexgen from " ++ String.ofList (blockSafe id.toList) ++ ". DO NOT EDIT."

/-- What stands below the remark. -/
def useLines : String := "use serde::\x7bDeserialize, Serialize\x7d;\n"

/-- `IsRemark id line`: the line is one comment of the target language, up to the end of the line,
and has the id in it, with its closing marks broken up. -/
structure IsRemark (id : String) (line : List Char) : Prop where
  opens : ['/', '/'] <+: line
  whole : '\n' ∉ line
  names : blockSafe id.toList <:+: line

/-- The head of a file is its remark, an empty line, and what is used. -/
theorem headText_eq (id : String) : headText id uses = remark id ++ "\n\n" ++ useLines := by
  have hUses : String.join (uses.map fun use => "use " ++ use ++ ";\n") = useLines := by decide
  have hEnds : ". DO NOT EDIT.\n" = ". DO NOT EDIT." ++ "\n" := by decide
  have hEmpty : "\n\n" = "\n" ++ "\n" := by decide
  unfold headText remark
  rw [hUses, hEnds, hEmpty]
  simp only [String.append_assoc]

theorem remark_toList (id : String) :
    (remark id).toList = "// Code generated by lexgen from ".toList ++
      (blockSafe id.toList ++ ". DO NOT EDIT.".toList) := by
  have hSafe : (String.ofList (blockSafe id.toList)).toList = blockSafe id.toList :=
    String.toList_ofList
  unfold remark
  rw [String.toList_append, String.toList_append, List.append_assoc, hSafe]

theorem newline_mem_remark (id : String) : '\n' ∈ (remark id).toList ↔ '\n' ∈ id.toList := by
  have hBefore : '\n' ∉ "// Code generated by lexgen from ".toList := by decide
  have hBehind : '\n' ∉ ". DO NOT EDIT.".toList := by decide
  rw [remark_toList, List.mem_append, List.mem_append, or_iff_right hBefore, or_iff_left hBehind,
    mem_blockSafe_iff (by decide)]

/-- **The remark is a comment** with the id in it exactly if the id has no line feed. -/
theorem isRemark_iff (id : String) : IsRemark id (remark id).toList ↔ '\n' ∉ id.toList := by
  refine ⟨fun h => mt (newline_mem_remark id).mpr h.whole, fun h => ⟨?_, ?_, ?_⟩⟩
  · rw [remark_toList]
    exact ⟨_, rfl⟩
  · exact mt (newline_mem_remark id).mp h
  · rw [remark_toList, ← List.append_assoc]
    exact ⟨_, _, rfl⟩

/-- A head is a comment of one line, with the id in it and what is used below it, exactly if the id
has no line feed. -/
theorem exists_isRemark_iff (id : String) : (∃ line, IsRemark id line ∧
    remark id ++ "\n\n" ++ useLines = String.ofList line ++ "\n\n" ++ useLines) ↔
      '\n' ∉ id.toList := by
  rw [← isRemark_iff]
  constructor
  · rintro ⟨line, hLine, hSame⟩
    have hRemark : remark id = String.ofList line :=
      (String.append_left_inj _).mp ((String.append_left_inj _).mp hSame)
    rw [hRemark, String.toList_ofList]
    exact hLine
  · intro h
    exact ⟨_, h, by rw [String.ofList_toList]⟩

/-- There are no closing marks in the remark. -/
theorem remark_closes (id : String) : ¬ ['*', '/'] <:+: (remark id).toList := by
  rw [remark_toList]
  intro hMark
  rcases pair_infix_append hMark (fun hLast => by cases hLast) with hBefore | hMark
  · revert hBefore
    decide
  · rcases pair_infix_append hMark (fun _ hHead => by cases hHead) with hInside | hBehind
    · exact blockSafe_closes _ hInside
    · revert hBehind
      decide

/-- The id stands in the remark as it is, unless it has a closing mark of a block comment. -/
theorem infix_remark_iff (id : String) :
    id.toList <:+: (remark id).toList ↔ ¬ ['*', '/'] <:+: id.toList := by
  refine ⟨fun h hMark => remark_closes id (hMark.trans h), fun h => ?_⟩
  rw [remark_toList, (blockSafe_eq_self_iff _).mpr h, ← List.append_assoc]
  exact ⟨_, _, rfl⟩

-- ---------------------------------------------------------------------------
-- Files
-- ---------------------------------------------------------------------------

section Files

variable {s : Settings} {g : Generator}

/-- A head that is switched on can always be written. -/
theorem prelude_on (hSound : Sound s g) (hOn : s.emitPrelude.truthy = true) (document : Document) :
    (g.prelude document).1 = .ok [remark document.id ++ "\n\n" ++ useLines] := by
  have hFills : FillsAll [("lexicon_id", .text document.id), ("uses", textList uses)]
      preludeTemplate := preludeTemplate_fills rfl rfl
  obtain ⟨block, hBlock⟩ := render_ok hSound.store hSound.store.file?_prelude hFills
  have hText := renderAll_of_render hBlock hSound.store hSound.store.file?_prelude
  rw [prelude_fst, hSound.settings, if_pos hOn, hBlock,
    preludeTemplate_text rfl rfl (by decide) hText, headText_eq]
  rfl

/-- **A file with a head** begins with the remark, if that is one line. What follows does not
depend on the id. -/
theorem layout_headed (blocks : List String) : ∃ rest, ∀ id : String, '\n' ∉ id.toList →
    layout ("\n".intercalate ((remark id ++ "\n\n" ++ useLines) :: blocks)) =
      remark id ++ "\n" ++ rest := by
  let tail := "\n".intercalate ("" :: blocks)
  have hTail : ∀ head, "\n".intercalate (head :: blocks) = head ++ tail := fun head => by
    rw [← String.intercalate_cons_append, String.append_empty]
  obtain ⟨rest, hRest⟩ := tidy_firstLine ('\n' :: (useLines ++ tail).toList)
  refine ⟨String.ofList rest, fun id hFree => ?_⟩
  obtain ⟨front, hFront⟩ : ∃ front, (remark id).toList = front ++ ['.'] :=
    ⟨"// Code generated by lexgen from ".toList ++ (blockSafe id.toList ++ ". DO NOT EDIT".toList),
      by rw [remark_toList, List.append_assoc, List.append_assoc]; rfl⟩
  have hLine : '\n' ∉ front := fun hBreak =>
    hFree ((newline_mem_remark id).mp (hFront ▸ List.mem_append_left _ hBreak))
  have hText : (remark id ++ "\n\n" ++ useLines ++ tail).toList =
      front ++ '.' :: '\n' :: '\n' :: (useLines ++ tail).toList := by
    rw [String.append_assoc, String.toList_append, String.toList_append, hFront]
    simp
  rw [hTail, layout, hText, hRest front '.' hLine (by decide), ← String.toList_inj,
    String.toList_ofList, String.toList_append, String.toList_append, hFront, String.toList_ofList]
  simp

/-- **The remark at the head of a file.** The head is a comment of one line with the id of the
document, and below it what is used, exactly if the id has no line feed. In that case the file
begins with the same line; and all that comes behind it is the same for all such ids, so that no
part of the id is there. The id is written as it is, but for blanks in its closing marks. -/
theorem prelude_remark (hReach : Reachable s g) (hOn : s.emitPrelude.truthy = true)
    (document : Document) (index : Option Naming.ReferenceIndex) :
    (∃ block, (g.prelude document).1 = .ok [block] ∧
      ((∃ line, IsRemark document.id line ∧
        block = String.ofList line ++ "\n\n" ++ useLines) ↔ '\n' ∉ document.id.toList)) ∧
    (document.id.toList <:+: (remark document.id).toList ↔
      ¬ ['*', '/'] <:+: document.id.toList) ∧
    ∃ rest : Except GenerationFault String, ∀ id : String, '\n' ∉ id.toList →
      (g.processDocument { document with id } index).1.map Generated.code =
        rest.map fun text => remark id ++ "\n" ++ text := by
  refine ⟨⟨_, prelude_on hReach.sound hOn document, exists_isRemark_iff _⟩, infix_remark_iff _, ?_⟩
  choose rest hRest using layout_headed
  refine ⟨((outlines (g.documentPlan document)).mapM fun outline => (g.declare outline).1).map rest,
    fun id hFree => ?_⟩
  have hStart : Sound s (g.start { document with id }) := hReach.sound.after (.start _)
  -- the id plays no part in the plan
  have hPlan : g.documentPlan { document with id } = g.documentPlan document := rfl
  rw [processDocument_fst hReach, generate_blocks (hReach.prepared _ index) hReach.sound,
    prelude_on hStart hOn, hPlan]
  dsimp only [Except.bind]
  cases (outlines (g.documentPlan document)).mapM fun outline => (g.declare outline).1 with
  | error fault => rfl
  | ok blocks => exact congrArg Except.ok (hRest blocks id hFree)

end Files

/-- A generator in whose settings nothing was changed but that it writes a head. -/
def heading : Generator := { plain with settings := { emitPrelude := .bool true } }

theorem build_heading : build { emitPrelude := .bool true } = .ok heading := by
  have hStyle : Settings.style? { emitPrelude := .bool true } = some .original := by
    decide +kernel
  rw [build, hStyle]
  rfl

/-- A document of the given id with a single struct. -/
def entitled (id : String) : Document :=
  { lexicon := 1, id, revision := none, description := none
    definitions := [("P", .object (.mk none [] [] []))] }

/-- An id with a closing mark is in the remark, but not as it is; and no other id makes any
difference behind the first line. -/
theorem prelude_remark_marked : (Value.bool true).truthy = true ∧
    build { emitPrelude := .bool true } = .ok heading ∧
    (∃ block line, (heading.prelude (entitled "a.*/b")).1 = .ok [block] ∧
      IsRemark "a.*/b" line ∧ block = String.ofList line ++ "\n\n" ++ useLines) ∧
    ¬ "a.*/b".toList <:+: (remark "a.*/b").toList ∧
    ∃ text, ∀ id : String, '\n' ∉ id.toList →
      (heading.processDocument (entitled id) none).1.map Generated.code =
        .ok (remark id ++ "\n" ++ text) := by
  have hOn : (Value.bool true).truthy = true := rfl
  obtain ⟨⟨block, hBlock, hRemark⟩, hVerbatim, rest, hRest⟩ :=
    prelude_remark (.built build_heading) hOn (entitled "a.*/b") none
  obtain ⟨line, hLine, hText⟩ := hRemark.mpr (by decide)
  have hMark : ['*', '/'] <:+: "a.*/b".toList := by decide
  refine ⟨hOn, build_heading, ⟨block, line, hBlock, hLine, hText⟩,
    fun h => hVerbatim.mp h hMark, ?_⟩
  have hOk : ((heading.processDocument (entitled "a.*/b") none).1.map fun _ => true).toOption =
      some true := by
    decide +kernel
  obtain ⟨result, g', hRun, -⟩ := exists_of_passes hOk
  have hFirst := hRest "a.*/b" (by decide)
  rw [show heading.processDocument { entitled "a.*/b" with id := "a.*/b" } none = _ from hRun]
    at hFirst
  cases rest with
  | error fault => cases hFirst
  | ok text => exact ⟨text, hRest⟩

/-- The code that is generated for a document whose id has a line feed. -/
def partedCode : String :=
  "// Code generated by lexgen from a\nb. DO NOT EDIT.\n\n" ++
    "use serde::\x7bDeserialize, Serialize\x7d;\n\n" ++
    "#[derive(Debug, Clone, Serialize, Deserialize)]\npub struct P \x7b\n\x7d\n"

/-- Its head is no remark, and a part of the id stands in the code. -/
theorem parted_outside :
    (¬ ∃ line, IsRemark "a\nb" line ∧ (heading.prelude (entitled "a\nb")).1 =
      .ok [String.ofList line ++ "\n\n" ++ useLines]) ∧
    ∃ result g', heading.process (.document (entitled "a\nb")) none = (.ok result, g') ∧
      result.code = partedCode := by
  constructor
  · rintro ⟨line, hLine, hBlock⟩
    rw [prelude_on (Reachable.built build_heading).sound rfl] at hBlock
    have hText := (List.cons.inj (Except.ok.inj hBlock)).1
    exact (exists_isRemark_iff "a\nb").mp ⟨line, hLine, hText⟩ (by decide)
  · have hOk : ((heading.process (.document (entitled "a\nb")) none).1.map fun result => decide (
        result.code = partedCode)).toOption = some true := by
      decide +kernel
    obtain ⟨result, g', hRun, hCode⟩ := exists_of_passes hOk
    exact ⟨result, g', hRun, of_decide_eq_true hCode⟩

end Lexicon.Generator
