import Lexicon.Proofs.Command.Frames
import Lexicon.Proofs.Generator.Declarations
import Lexicon.Proofs.Run.Isolation

/-!
# Lexicon — what a command writes

A command writes a single text: the codes of all its documents, joined by line feeds. Names are
kept apart within a document, and the head of a file stands before each document. So the text is
free of clashes only if the documents happen to declare different names, and if the head is
switched off or there is but one document.

* `Chapter`            — a document of a command with its part of the text; `Chapter.Sound` says
                         what that part holds.
* `exists_chapters`    — the answers of a run are chapters.
* `Delivered`          — a text is what a command has written.
* `ClashFree`          — nothing is declared or used twice; `clashFree_iff` says when.
* `run_joined`         — what a command writes, and when it is free of clashes.
* `uses_repeated`      — two documents whose text uses the same thing twice.
-/

namespace Lexicon.Command

open Lexicon.Source

-- ---------------------------------------------------------------------------
-- Chapters
-- ---------------------------------------------------------------------------

/-- A document of a command, what is declared for it, and the text for it before its layout. -/
structure Chapter where
  document : Schema.Document
  declarations : List Target.Outline
  text : String

namespace Chapter

/-- The part of the written text that is about the document. -/
def code (chapter : Chapter) : String := Generator.layout chapter.text

/-- The types that are declared for the document. -/
def declared (chapter : Chapter) : List String :=
  chapter.declarations.filterMap Target.Outline.declared?

/-- What the head before the document uses, if there is one. -/
def uses (s : Settings) (_ : Chapter) : List String :=
  if s.emitPrelude.truthy then Generator.uses else []

/-- The text of a chapter is its head, if there is one, and a block for each of its declarations.
What is used stands in the head, and no name is declared for a second time. -/
structure Sound (s : Settings) (chapter : Chapter) : Prop where
  written : Generator.Written s chapter.document chapter.declarations chapter.text
  opens : chapter.uses s ≠ [] →
    ∃ rest, chapter.text = Template.headText chapter.document.id (chapter.uses s) ++ rest
  declared : chapter.declared.Nodup

/-- The head of a file opens the text that it is written for. -/
theorem opens_of_written {s : Settings} {chapter : Chapter}
    (h : Generator.Written s chapter.document chapter.declarations chapter.text)
    (hUses : chapter.uses s ≠ []) :
    ∃ rest, chapter.text = Template.headText chapter.document.id (chapter.uses s) ++ rest := by
  obtain ⟨head, blocks, hHead, -, hText⟩ := h
  rw [uses] at hUses ⊢
  rw [Generator.Heads] at hHead
  split at hHead
  · rename_i hOn
    obtain ⟨block, rfl, hBlock⟩ := hHead
    rw [if_pos hOn, hText, Template.preludeTemplate_text rfl rfl (by decide) hBlock]
    refine ⟨"\n".intercalate ("" :: blocks), ?_⟩
    rw [List.singleton_append, ← String.intercalate_cons_append, String.append_empty]
  · rename_i hOff
    rw [if_neg hOff] at hUses
    exact absurd rfl hUses

end Chapter

-- ---------------------------------------------------------------------------
-- Chapters of a run
-- ---------------------------------------------------------------------------

/-- A processed document is a chapter. -/
theorem exists_chapter {s : Settings} {g : Generator} (hReach : Generator.Reachable s g)
    {document : Schema.Document} (hDocument : document.Keyed)
    {index : Option Naming.ReferenceIndex} {result : Generated}
    (h : (g.processDocument document index).1 = .ok result) :
    ∃ chapter : Chapter, chapter.Sound s ∧ chapter.document = document ∧
      chapter.code = result.code := by
  have hPayload : (Schema.Payload.document document).Keyed := hDocument
  have hRun : g.process (.document document) index =
      (.ok result, (g.processDocument document index).2) := by
    rw [← h]
    rfl
  obtain ⟨found, text, forest, hDecode, -, hWritten, hCode, hGrows, -⟩ :=
    Generator.process_forest hReach hPayload hRun
  obtain rfl : document = found := Except.ok.inj hDecode
  have hNames : forest.names.Nodup := hGrows.names_nodup hDocument.names fun n hn =>
    (Generator.mem_planFor_definitions g document n).mpr hn
  refine ⟨⟨document, forest.preorder, text⟩, ⟨hWritten, ?_, hNames⟩, rfl, hCode.symm⟩
  exact Chapter.opens_of_written hWritten

/-- The documents that are decoded from what was loaded. -/
def documentsOf (loads : Loads) : List Schema.Document :=
  Generator.decodedDocuments (Generator.decodeAll
    (loads.payloads.map fun (source, value) => (source, .value value)))

/-- **The answers of a run** are its documents as chapters. -/
theorem exists_chapters {s : Settings} {g : Generator} (hReach : Generator.Reachable s g)
    {index : Naming.ReferenceIndex} {payloads : List (String × Schema.Payload)}
    {answers : List (String × Answer)} (hKeyed : ∀ payload ∈ payloads, payload.2.Keyed)
    (h : List.Forall₂ (fun entry given =>
      g.answer index (entry.1, Schema.Document.decode entry.2) = .ok given) payloads answers) :
    ∃ chapters : List Chapter, (∀ chapter ∈ chapters, chapter.Sound s) ∧
      chapters.map Chapter.document =
        Generator.decodedDocuments (Generator.decodeAll payloads) ∧
      chapters.map Chapter.code = codes answers := by
  induction h with
  | nil => exact ⟨[], fun _ hc => (by cases hc), rfl, rfl⟩
  | @cons entry given rest others hAnswer _ ih =>
    obtain ⟨chapters, hSound, hDocuments, hCodes⟩ :=
      ih fun payload hp => hKeyed payload (List.mem_cons_of_mem _ hp)
    have hEntries : Generator.decodeAll (entry :: rest) =
        (entry.1, Schema.Document.decode entry.2) :: Generator.decodeAll rest := rfl
    rw [hEntries]
    cases hDecode : Schema.Document.decode entry.2 with
    | error e =>
      rw [hDecode] at hAnswer
      cases hAnswer
      exact ⟨chapters, hSound, hDocuments, hCodes⟩
    | ok document =>
      rw [hDecode, Generator.answer] at hAnswer
      have hDocument := Schema.Document.decode_keyed (hKeyed entry (List.mem_cons_self ..)) hDecode
      cases hResult : (g.processDocument document (some index)).1 with
      | error fault =>
        rw [hResult] at hAnswer
        cases hAnswer
      | ok result =>
        rw [hResult] at hAnswer
        cases hAnswer
        obtain ⟨chapter, hChapter, rfl, hCode⟩ := exists_chapter hReach hDocument hResult
        refine ⟨chapter :: chapters, ?_, ?_, ?_⟩
        · exact List.forall_mem_cons.mpr ⟨hChapter, hSound⟩
        · exact congrArg (chapter.document :: ·) hDocuments
        · rw [List.map_cons, hCode, hCodes]
          rfl

-- ---------------------------------------------------------------------------
-- Clashes
-- ---------------------------------------------------------------------------

/-- Is nothing declared twice and nothing used twice in the chapters of a text? -/
structure ClashFree (s : Settings) (chapters : List Chapter) : Prop where
  declared : (chapters.flatMap Chapter.declared).Nodup
  uses : (chapters.flatMap (Chapter.uses s)).Nodup

/-- What is used is used once for each chapter. -/
theorem uses_nodup_iff (s : Settings) (chapters : List Chapter) :
    (chapters.flatMap (Chapter.uses s)).Nodup ↔
      (s.emitPrelude.truthy = true → chapters.length ≤ 1) := by
  by_cases hOn : s.emitPrelude.truthy = true
  · have hUses : ∀ chapter : Chapter, chapter.uses s = Generator.uses := fun _ => if_pos hOn
    rw [forall_prop_of_true hOn]
    match chapters with
    | [] => simp
    | [chapter] => simp [hUses, Generator.uses]
    | first :: second :: rest => simp [hUses, Generator.uses]
  · have hNone : chapters.flatMap (Chapter.uses s) = [] :=
      List.flatMap_eq_nil_iff.mpr fun _ _ => if_neg hOn
    rw [hNone]
    exact iff_of_true List.nodup_nil fun h => absurd h hOn

/-- **When a text is free of clashes**: its chapters declare different names, and there is one head
at most. -/
theorem clashFree_iff {s : Settings} {chapters : List Chapter}
    (hSound : ∀ chapter ∈ chapters, chapter.Sound s) :
    ClashFree s chapters ↔
      chapters.Pairwise (fun first second => first.declared.Disjoint second.declared) ∧
        (s.emitPrelude.truthy = true → chapters.length ≤ 1) := by
  have hDeclared : (chapters.flatMap Chapter.declared).Nodup ↔
      chapters.Pairwise (fun first second => first.declared.Disjoint second.declared) := by
    rw [List.nodup_flatMap]
    exact and_iff_right fun chapter hChapter => (hSound chapter hChapter).declared
  rw [← hDeclared, ← uses_nodup_iff]
  exact ⟨fun h => ⟨h.declared, h.uses⟩, fun h => ⟨h.1, h.2⟩⟩

-- ---------------------------------------------------------------------------
-- Delivery
-- ---------------------------------------------------------------------------

/-- `Delivered target before text after`: the text has been written to the file that is set, or to
the first stream if there is none. -/
inductive Delivered (target : Value) (before : Console) (text : String) (after : Console) : Prop
  | stream (hTarget : target.truthy = false) (hFiles : after.files = before.files)
      (hOutput : after.output = before.output ++ text)
  | file (path : String) (hTarget : target = .text path)
      (hFiles : before.files.write (.read path) (Encoding.Utf8.encode text) = .ok after.files)
      (hOutput : after.output = before.output)

theorem Delivered.quiet {target : Value} {a b c d : Console} {text : String} (hab : Quiet a b)
    (h : Delivered target b text c) (hcd : Quiet c d) : Delivered target a text d := by
  cases h with
  | stream hTarget hFiles hOutput =>
    refine .stream hTarget ?_ ?_
    · rw [hcd.files, hFiles, hab.files]
    · rw [hcd.output, hOutput, hab.output]
  | file path hTarget hFiles hOutput =>
    refine .file path hTarget ?_ ?_
    · rw [hcd.files, ← hab.files, hFiles]
    · rw [hcd.output, hOutput, hab.output]

/-- Text that is saved goes to its file, and nothing else changes. -/
theorem delivered_of_save {console saved : Console} {path text : String}
    (h : console.save (.read path) text = .ok saved) :
    Delivered (.text path) console text saved := by
  obtain ⟨files, hFiles, hSaved⟩ := exists_of_bind_ok h
  cases hSaved
  exact .file path rfl hFiles rfl

/-- A message behind what has been delivered. -/
theorem Delivered.print {target : Value} {console saved : Console} {text : String}
    (h : Delivered target console text saved) (markup : String) :
    Ends id (fun after => Quiet console after ∨ Delivered target console text after)
      (print saved markup) :=
  (print_quiet saved markup).mono fun _ hQuiet => .inr (h.quiet (.refl console) hQuiet)

theorem deliver_ends (text language : String) (target : Value) (console : Console) :
    Ends id (fun after => Quiet console after ∨ Delivered target console text after)
      (deliver text language target console) := by
  unfold deliver
  split
  · exact .inl (.refl console)
  · split
    · rename_i hOff
      exact .inr (.stream (by simpa using hOff) rfl rfl)
    · split
      · rw [saveTo]
        split
        · exact .inl (.refl console)
        · rename_i hSaved
          exact (delivered_of_save hSaved).print _
      · exact .inl (.refl console)

-- ---------------------------------------------------------------------------
-- Commands
-- ---------------------------------------------------------------------------

/-- The text of several chapters. -/
def joined (chapters : List Chapter) : String := "\n".intercalate (chapters.map Chapter.code)

/-- The sources that a request names. -/
def sourcesOf (request : Request) : List String :=
  request.sources ++ if request.fromInput then [streamName] else []

/-- What is known of a text that has been written for the documents of some sources: what is in it
and where it has gone. -/
structure Joined (world : World) (sources : List String) (s : Settings) (chapters : List Chapter)
    (before after : Console) : Prop where
  documents : ∃ start loads next, loadAll {} world start sources = .ok (loads, next) ∧
    chapters.map Chapter.document = documentsOf loads
  sound : ∀ chapter ∈ chapters, chapter.Sound s
  delivered : Delivered s.outputFile before (joined chapters) after

theorem build_of_create {registry : Registry} {files : Tree} {language : String} {s : Settings}
    {kind : GeneratorKind} {g : Generator}
    (h : registry.create files language (.given s) = .ok (kind, g)) : Generator.build s = .ok g := by
  obtain ⟨_, -, h⟩ := exists_of_bind_ok h
  obtain ⟨_, -, h⟩ := exists_of_bind_ok h
  obtain ⟨found, hSettings, h⟩ := exists_of_bind_ok h
  obtain rfl : s = found := Except.ok.inj hSettings
  cases hBuild : Generator.build s with
  | error fault =>
    rw [hBuild] at h
    cases h
  | ok built =>
    rw [hBuild] at h
    cases h
    rfl

/-- **What is generated is written at once**, at the end of all work: the chapters of all documents
that could be loaded and decoded. -/
theorem generateAll_joined (registry : Registry) (language : String) (s : Settings)
    (detailed : Bool) (sources : List String) (world : World) (console : Console) :
    Ends Prod.snd
      (fun after => Quiet console after ∨
        ∃ chapters, Joined world sources s chapters console after)
      (generateAll registry language s detailed sources world console) := by
  rw [generateAll]
  refine (loadAll_quiet ..).bind (fun _ => .inl) fun loaded hLoad hQuiet => ?_
  obtain ⟨loads, next⟩ := loaded
  dsimp only at hQuiet ⊢
  split
  · split
    · exact .inl hQuiet
    · exact .inl hQuiet
  · rename_i kind g hCreate
    have hReach : Generator.Reachable s g := .built (build_of_create hCreate)
    have hLogged : ∀ records, Quiet console (next.log records) := fun _ => hQuiet.trans ⟨rfl, rfl⟩
    refine ((orCrash_quiet ..).after (hLogged _)).bind (fun _ => .inl) fun answers hAnswers hLog => ?_
    refine ((report_quiet ..).after hLog).bind (fun _ => .inl) fun reported hReport hShown => ?_
    have hTexts := report_texts hReport
    obtain ⟨texts, failures, last⟩ := reported
    dsimp only at hShown hTexts ⊢
    -- the texts to be delivered are the codes of chapters
    have hKeyed : ∀ payload ∈ loads.payloads.map fun (source, value) =>
        (source, Schema.Payload.value value), payload.2.Keyed := by
      intro payload hPayload
      obtain ⟨entry, hEntry, rfl⟩ := List.mem_map.mp hPayload
      exact loadAll_keyed (fun _ h => by cases h) hLoad entry hEntry
    have hEach := Generator.forall₂_of_runAll hReach hReach (ok_of_orCrash hAnswers)
    obtain ⟨chapters, hSound, hDocuments, hCodes⟩ := exists_chapters hReach hKeyed hEach
    rw [← hCodes] at hTexts
    subst hTexts
    have hEnd : ∀ after,
        Quiet last after ∨ Delivered s.outputFile last (joined chapters) after →
        Quiet console after ∨ ∃ chapters, Joined world sources s chapters console after := by
      rintro after (hSame | hDelivered)
      · exact .inl (hShown.trans hSame)
      · exact .inr ⟨chapters, ⟨_, loads, next, hLoad, hDocuments⟩, hSound,
          hDelivered.quiet hShown (.refl after)⟩
    exact (deliver_ends ..).bind hEnd fun after _ => hEnd after

/-- What a command writes for a request: nothing at all, or a joined text for the settings that the
request asks for. -/
def Writes (request : Request) (world : World) (before after : Console) : Prop :=
  Quiet before after ∨
    ∃ s chapters, (∃ language start next,
        settings world.files language request start = .ok (s, next)) ∧
      Joined world (sourcesOf request) s chapters before after

theorem Writes.quiet {request : Request} {world : World} {a b c d : Console} (hab : Quiet a b)
    (h : Writes request world b c) (hcd : Quiet c d) : Writes request world a d := by
  rcases h with hSame | ⟨s, chapters, hSettings, hJoined⟩
  · exact .inl ((hab.trans hSame).trans hcd)
  · exact .inr ⟨s, chapters, hSettings, hJoined.documents, hJoined.sound,
      hJoined.delivered.quiet hab hcd⟩

theorem serve_writes (registry : Registry) (language : String) (request : Request) (world : World)
    (console : Console) :
    Ends Prod.snd (Writes request world console)
      (serve registry language request world console) := by
  rw [serve]
  refine (settings_quiet ..).bind (fun _ => .inl) fun found hSettings hQuiet => ?_
  obtain ⟨s, next⟩ := found
  dsimp only at hQuiet ⊢
  split
  · refine Ends.mono ?_ fun _ hShown => .inl (hQuiet.trans hShown)
    exact (showSettings_quiet ..).quiet fun last _ => .refl last
  · have hSources : (request.sources ++ if request.fromInput then [streamName] else []) =
        sourcesOf request := rfl
    rw [hSources]
    split
    · exact .inl hQuiet
    · refine (generateAll_joined ..).mono ?_
      rintro after (hSame | ⟨chapters, hJoined⟩)
      · exact .inl (hQuiet.trans hSame)
      · exact .inr ⟨s, chapters, ⟨language, console, next, hSettings⟩, hJoined.documents,
          hJoined.sound, hJoined.delivered.quiet hQuiet (.refl after)⟩

theorem execute_writes (request : Request) (world : World) :
    Ends Prod.snd (Writes request world { files := world.files })
      (execute .builtIn request world) := by
  rw [execute]
  split
  · refine Ends.mono ?_ fun _ => .inl
    exact (listLanguages_quiet _).quiet fun last _ => .refl last
  · split
    · refine Ends.mono ?_ fun _ => .inl
      exact (refuseLanguage_quiet ..).quiet fun last _ => .refl last
    · exact serve_writes ..

/-- **What a command writes.** Whatever a command is called with, and however it ends: it writes
nothing, or it writes the chapters of the documents that it has loaded and decoded, one behind the
other, to its first stream or to the file that is set. Within a chapter no name is declared twice.
In the whole text no name is declared twice and nothing is used twice exactly if no two documents
declare the same name and, with the head of files switched on, there is one document at most. -/
theorem run_joined (request : Request) (world : World) :
    Quiet { files := world.files } (run .builtIn request world).console ∨
      ∃ s chapters, (∃ language start next,
          settings world.files language request start = .ok (s, next)) ∧
        Joined world (sourcesOf request) s chapters { files := world.files }
          (run .builtIn request world).console ∧
        (ClashFree s chapters ↔
          chapters.Pairwise (fun first second => first.declared.Disjoint second.declared) ∧
            (s.emitPrelude.truthy = true → chapters.length ≤ 1)) := by
  have hWork := outcome_ends (execute_writes request world) fun _ _ hQuiet hWrites =>
    hWrites.quiet (.refl _) hQuiet
  -- what is kept of the log makes no difference
  have hRun : Writes request world { files := world.files }
      (run .builtIn request world).console := hWork.quiet (.refl _) ⟨rfl, rfl⟩
  rcases hRun with hSame | ⟨s, chapters, hSettings, hJoined⟩
  · exact .inl hSame
  · exact .inr ⟨s, chapters, hSettings, hJoined, clashFree_iff hJoined.sound⟩

-- ---------------------------------------------------------------------------
-- Two documents
-- ---------------------------------------------------------------------------

/-- A document that defines one empty object. -/
def oneObject (id name : String) : String :=
  "\x7b\"lexicon\":1,\"id\":\"" ++ id ++ "\",\"defs\":\x7b\"" ++ name ++
    "\":\x7b\"type\":\"object\"\x7d\x7d\x7d"

/-- Two files with documents that have nothing in common. -/
def twoFiles : World :=
  { files :=
      { entries :=
          [([".", "a.json"], .file (Encoding.Utf8.encode (oneObject "a" "A"))),
           ([".", "b.json"], .file (Encoding.Utf8.encode (oneObject "b" "B")))] } }

/-- The request for both of them, with the head of files switched on. -/
def bothWithHead : Request := { sources := ["a.json", "b.json"], prelude := true }

theorem run_output (registry : Registry) (request : Request) (world : World) :
    (run registry request world).console.output =
      (Outcome.of (execute registry request world)).console.output := rfl

/-- The text for both files uses the same twice, though they have nothing in common. -/
theorem uses_repeated : ∃ opening between rest,
    (run .builtIn bothWithHead twoFiles).console.output =
      opening ++ "\nuse serde::\x7bDeserialize, Serialize\x7d;\n" ++ between ++
        "\nuse serde::\x7bDeserialize, Serialize\x7d;\n" ++ rest := by
  refine ⟨"// Code generated by lexgen from a. DO NOT EDIT.\n",
    "\n#[derive(Debug, Clone, Serialize, Deserialize)]\npub struct A \x7b\n\x7d\n\n" ++
      "// Code generated by lexgen from b. DO NOT EDIT.\n",
    "\n#[derive(Debug, Clone, Serialize, Deserialize)]\npub struct B \x7b\n\x7d\n", ?_⟩
  rw [run_output]
  decide +kernel

end Lexicon.Command
