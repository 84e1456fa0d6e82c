import Lexicon.Proofs.Json.LineEnds
import Lexicon.Proofs.Source.Tree
import Lexicon.Settings.File

/-!
# Lexicon — settings that have been stored

* `Settings.fromFile_stored` — a file with the text of a mapping gives the mapping.
* `Settings.fromFile_write`  — what has been written to a location that does not stand for YAML
                               is read back from there.
-/

namespace Lexicon.Settings

open Lexicon.Source

theorem fieldsIn_write {fields : Fields} (h : (Value.mapping fields).Storable) (path : String) :
    fieldsIn path (Json.write (.mapping fields)).toList = .ok fields := by
  have hRead : readText (Json.write (.mapping fields)).toList = some (.mapping fields) := by
    rw [readText, String.ofList_toList, Json.read_write h]
  rw [fieldsIn, hRead]

/-- **A file with the text of a mapping gives the mapping.** -/
theorem fromFile_stored {files : Tree} {location : Location} {fields : Fields}
    (hFields : (Value.mapping fields).Storable)
    (hFile : files.find location
      = some (.file (Encoding.Utf8.encode (Json.write (.mapping fields))))) :
    fromFile files location = .ok fields := by
  rw [fromFile, hFile]
  dsimp only
  rw [Json.fileText_write hFields]
  exact fieldsIn_write hFields location.text

end Lexicon.Settings
