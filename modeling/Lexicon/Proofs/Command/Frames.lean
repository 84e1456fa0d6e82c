import Lexicon.Command.Execute
import Lexicon.Proofs.Generator.Success
import Lexicon.Proofs.Schema.Keys

/-!
# Lexicon — what a command leaves alone

Until it delivers generated text, a command prints messages and tables and logs what it does, but
writes nothing to its first stream and changes no file, whether it goes on or stops.

* `Quiet`, `Ends`     — nothing has been written so far, and all ends of some work have a property.
* `Ends.bind`         — the ends of two steps.
* `print_quiet`, `settings_quiet`, `loadAll_quiet`, `report_quiet` — the steps of a command.
* `loadAll_keyed`     — what is loaded repeats no keys.
* `report_texts`      — which texts are there to be delivered.
* `outcome_ends`      — how work ends shows in the outcome of the command.
-/

namespace Lexicon.Command

open Lexicon.Source

-- ---------------------------------------------------------------------------
-- Ends
-- ---------------------------------------------------------------------------

/-- Has nothing been written to the first stream or to a file? -/
structure Quiet (before after : Console) : Prop where
  files : after.files = before.files
  output : after.output = before.output

theorem Quiet.refl (console : Console) : Quiet console console := ⟨rfl, rfl⟩

theorem Quiet.trans {a b c : Console} (hab : Quiet a b) (hbc : Quiet b c) : Quiet a c :=
  ⟨hbc.files.trans hab.files, hbc.output.trans hab.output⟩

/-- `Ends get p work`: the console has the property where the work stops, and where it goes on,
`get` being the console that is part of its result. -/
def Ends {α : Type} (get : α → Console) (p : Console → Prop) : Work α → Prop
  | .ok result => p (get result)
  | .error (_, console) => p console

section Ends

variable {α β : Type} {get : α → Console} {get' : β → Console} {p q : Console → Prop}

theorem Ends.mono {work : Work α} (h : Ends get p work) (hpq : ∀ console, p console → q console) :
    Ends get q work := by
  cases work with
  | ok result => exact hpq _ h
  | error stop => exact hpq _ h

/-- **Two steps** end as the first one does if it stops, and otherwise as the second one does. -/
theorem Ends.bind {work : Work α} {f : α → Work β} (h : Ends get p work)
    (hStop : ∀ console, p console → q console)
    (hf : ∀ result, work = .ok result → p (get result) → Ends get' q (f result)) :
    Ends get' q (work >>= f) := by
  cases work with
  | ok result => exact hf result rfl h
  | error stop => exact hStop _ h

theorem Ends.after {a b : Console} {work : Work α} (hQuiet : Quiet a b)
    (h : Ends get (Quiet b) work) : Ends get (Quiet a) work :=
  h.mono fun _ hEnd => hQuiet.trans hEnd

/-- Two quiet steps. -/
theorem Ends.quiet {console : Console} {work : Work α} {f : α → Work β}
    (h : Ends get (Quiet console) work)
    (hf : ∀ result, work = .ok result → Ends get' (Quiet (get result)) (f result)) :
    Ends get' (Quiet console) (work >>= f) :=
  h.bind (fun _ h => h) fun result hWork hQuiet => .after hQuiet (hf result hWork)

end Ends

-- ---------------------------------------------------------------------------
-- Messages and tables
-- ---------------------------------------------------------------------------

/-- A fault that is made a crash leaves the console as it was. -/
theorem orCrash_quiet {ε α : Type} (console : Console) (crash : ε → Crash) (x : Except ε α) :
    Ends (fun _ => console) (Quiet console) (orCrash console crash x) := by
  cases x with
  | ok a => exact .refl console
  | error e => exact .refl console

theorem ok_of_orCrash {ε α : Type} {console : Console} {crash : ε → Crash} {x : Except ε α} {a : α}
    (h : orCrash console crash x = .ok a) : x = .ok a := by
  cases x with
  | ok found =>
    cases h
    rfl
  | error e => cases h

theorem print_quiet (console : Console) (markup : String) :
    Ends id (Quiet console) (print console markup) := by
  rw [print, Console.print]
  cases Markup.plain markup with
  | ok text => exact ⟨rfl, rfl⟩
  | error fault => exact .refl console

theorem printTable_quiet (console : Console) (title : String) (columns : List String)
    (rows : List (List String)) :
    Ends id (Quiet console) (printTable console title columns rows) := by
  rw [printTable, Console.table]
  cases Markup.plain title with
  | error fault => exact .refl console
  | ok title =>
    cases rows.mapM fun row => row.mapM Markup.plain with
    | error fault => exact .refl console
    | ok rows => exact ⟨rfl, rfl⟩

theorem printAll_quiet (console : Console) (messages : List String) :
    Ends id (Quiet console) (printAll console messages) := by
  induction messages generalizing console with
  | nil => exact .refl console
  | cons message rest ih =>
    rw [printAll, List.foldlM_cons]
    exact (print_quiet console message).quiet fun next _ => ih next

theorem refuseLanguage_quiet (registry : Registry) (language : String) (console : Console) :
    Ends id (Quiet console) (refuseLanguage registry language console) :=
  printAll_quiet ..

theorem showSettings_quiet (language : String) (s : Settings) (console : Console) :
    Ends id (Quiet console) (showSettings language s console) :=
  (orCrash_quiet ..).quiet fun _ _ => printTable_quiet ..

/-- The program has languages to list, so it lists them in a table. -/
theorem listLanguages_quiet (console : Console) :
    Ends id (Quiet console) (listLanguages .builtIn console) := by
  have hKnown : Registry.builtIn.describeAll = [("rust", .rust, ["rs"])] := by decide +kernel
  rw [listLanguages, hKnown]
  exact printTable_quiet ..

-- ---------------------------------------------------------------------------
-- Settings and sources
-- ---------------------------------------------------------------------------

theorem settings_quiet (files : Tree) (language : String) (request : Request) (console : Console) :
    Ends Prod.snd (Quiet console) (settings files language request console) := by
  rw [settings]
  split
  · split
    · exact .refl console
    · exact .refl console
  · refine (orCrash_quiet ..).quiet fun warnings _ => ?_
    exact (printAll_quiet ..).quiet fun next _ => .refl next

theorem loadAll_quiet (loads : Loads) (world : World) (console : Console) (sources : List String) :
    Ends Prod.snd (Quiet console) (loadAll loads world console sources) := by
  induction sources generalizing loads world console with
  | nil => exact .refl console
  | cons source rest ih =>
    rw [loadAll]
    dsimp only
    have hLogged : ∀ records, Quiet console (console.log records) := fun _ => ⟨rfl, rfl⟩
    split
    · exact .after (hLogged _) (ih ..)
    · exact hLogged _
    -- a source that cannot be loaded costs a message, and the others are loaded all the same
    · exact .after (hLogged _) ((print_quiet ..).quiet fun next _ => ih ..)

-- ---------------------------------------------------------------------------
-- What is loaded
-- ---------------------------------------------------------------------------

theorem fromFile_keyed {files : Tree} {path name : String} {value : Value}
    (h : (fromFile files path).1 = .ok (name, value)) : value.Keyed := by
  rw [fromFile] at h
  dsimp only at h
  split at h
  · cases h
  · split at h
    · cases h
    · split at h
      · cases h
      · split at h
        · cases h
        · rename_i hRead
          cases h
          exact Json.read_keyed hRead

theorem fromStream_keyed {input : List UInt8} {name : String} {value : Value}
    (h : (fromStream input).1 = .ok (name, value)) : value.Keyed := by
  rw [fromStream] at h
  split at h
  · cases h
  · split at h
    · cases h
    · rename_i hRead
      cases h
      exact Json.read_keyed hRead

theorem fromUrl_keyed {response : Response} {url name : String} {value : Value}
    (h : (fromUrl response url).1 = .ok (name, value)) : value.Keyed := by
  unfold fromUrl at h
  split at h
  · cases h
  · cases h
  · split at h
    · cases h
    · cases h
    · cases h
    · rw [fromAnswer] at h
      split at h
      · cases h
      · dsimp only at h
        split at h
        · cases h
        · rename_i hRead
          cases h
          exact Json.read_keyed hRead

/-- **What is loaded repeats no keys**, wherever it comes from. -/
theorem fromSource_keyed {world : World} {source name : String} {value : Value}
    (h : (fromSource world source).1.1 = .ok (name, value)) : value.Keyed := by
  rw [fromSource] at h
  split at h
  · exact fromStream_keyed h
  · split at h
    · cases h
    · rw [fromEither] at h
      split at h
      · cases h
      · cases h
      · exact fromFile_keyed h
      · exact fromUrl_keyed h
    · rw [fromEither] at h
      split at h
      · cases h
      · cases h
      · exact fromFile_keyed h
      · exact fromUrl_keyed h

theorem loadAll_keyed {loads : Loads} {world : World} {console : Console} {sources : List String}
    {result : Loads × Console} (hLoads : ∀ payload ∈ loads.payloads, payload.2.Keyed)
    (h : loadAll loads world console sources = .ok result) :
    ∀ payload ∈ result.1.payloads, payload.2.Keyed := by
  induction sources generalizing loads world console with
  | nil =>
    cases h
    exact hLoads
  | cons source rest ih =>
    rw [loadAll] at h
    dsimp only at h
    split at h
    · rename_i payload hLoaded
      refine ih ?_ h
      intro p hp
      rcases List.mem_append.mp hp with hBefore | hNew
      · exact hLoads p hBefore
      · rw [List.mem_singleton.mp hNew]
        exact fromSource_keyed hLoaded
    · cases h
    · obtain ⟨next, -, h⟩ := exists_of_bind_ok h
      refine ih ?_ h
      exact hLoads

-- ---------------------------------------------------------------------------
-- Results
-- ---------------------------------------------------------------------------

theorem printDiagnostics_quiet (source : String) (diagnostics : List Diagnostic)
    (console : Console) :
    Ends id (Quiet console) (printDiagnostics source diagnostics console) := by
  rw [printDiagnostics]
  split
  · exact .refl console
  · exact printAll_quiet ..

theorem report_generated (detailed : Bool) (console : Console) (source : String)
    (result : Generated) (rest : List (String × Answer)) :
    report detailed console ((source, .generated result) :: rest) = (do
      let console ← printDiagnostics source result.diagnostics console
      let console ← (if detailed then printProperties source result console else .ok console)
      let (texts, failures, console) ← report detailed console rest
      return (result.code :: texts, failures, console)) := by
  rw [report]
  cases detailed <;> rfl

theorem report_quiet (detailed : Bool) (console : Console) (answers : List (String × Answer)) :
    Ends (fun result => result.2.2) (Quiet console) (report detailed console answers) := by
  induction answers generalizing console with
  | nil => exact .refl console
  | cons entry rest ih =>
    obtain ⟨source, given⟩ := entry
    cases given with
    | undecodable message =>
      rw [report]
      refine (print_quiet ..).quiet fun next _ => ?_
      exact (ih next).quiet fun result _ => .refl result.2.2
    | generated result =>
      have hProperties : ∀ next, Ends id (Quiet next)
          (if detailed then printProperties source result next else .ok next) := by
        intro next
        split
        · exact printTable_quiet ..
        · exact .refl next
      rw [report_generated]
      refine (printDiagnostics_quiet ..).quiet fun next _ => ?_
      refine (hProperties next).quiet fun last _ => ?_
      exact (ih last).quiet fun result _ => .refl result.2.2

/-- The texts of the answers that are texts. -/
def codes (answers : List (String × Answer)) : List String :=
  answers.filterMap fun
    | (_, .generated result) => some result.code
    | (_, .undecodable _) => none

/-- **The texts to be delivered** are those of the documents that were generated, in order. -/
theorem report_texts {detailed : Bool} {console : Console} {answers : List (String × Answer)}
    {result : List String × Nat × Console} (h : report detailed console answers = .ok result) :
    result.1 = codes answers := by
  induction answers generalizing console result with
  | nil =>
    cases h
    rfl
  | cons entry rest ih =>
    obtain ⟨source, given⟩ := entry
    cases given with
    | undecodable message =>
      rw [report] at h
      obtain ⟨next, -, h⟩ := exists_of_bind_ok h
      obtain ⟨others, hOthers, h⟩ := exists_of_bind_ok h
      have hTexts := ih hOthers
      cases h
      exact hTexts
    | generated document =>
      rw [report_generated] at h
      obtain ⟨next, -, h⟩ := exists_of_bind_ok h
      obtain ⟨last, -, h⟩ := exists_of_bind_ok h
      obtain ⟨others, hOthers, h⟩ := exists_of_bind_ok h
      have hTexts := ih hOthers
      cases h
      exact congrArg (document.code :: ·) hTexts

-- ---------------------------------------------------------------------------
-- The outcome
-- ---------------------------------------------------------------------------

theorem failWith_quiet (console : Console) (markup : String) :
    Quiet console (failWith console markup).console := by
  rw [failWith, Console.print]
  cases Markup.plain markup with
  | ok text => exact ⟨rfl, rfl⟩
  | error fault => exact .refl console

/-- **How work ends** shows in the outcome of the command, if messages make no difference to it. -/
theorem outcome_ends {p : Console → Prop} {work : Work (Nat × Console)} (h : Ends Prod.snd p work)
    (hQuiet : ∀ a b, Quiet a b → p a → p b) : p (Outcome.of work).console := by
  -- what stops with an error has one more message to print
  match work, h with
  | .ok (_, _), h => exact h
  | .error (.error _, _), h => exact hQuiet _ _ (failWith_quiet ..) h
  | .error (.rejected _, _), h => exact hQuiet _ _ (failWith_quiet ..) h
  | .error (.crash _, _), h => exact h

end Lexicon.Command
