import Lexicon.Registry.Create
import Lexicon.Run

/-!
# Lexicon — generating by language

* `Registry.answer` — answers about a document with a generator made for it.
* `Registry.code`   — the text for a document; one that does not decode is a fault.
* `RequestFault`    — why there is no answer.
-/

namespace Lexicon

/-- Why there is no answer: no generator could be made, the text could not be generated,
or the document does not decode. -/
inductive RequestFault where
  | creation (fault : CreationFault)
  | generation (fault : GenerationFault)
  | undecodable (message : String)
  deriving Inhabited

/-- The wording of a document that does not decode. -/
def undecodableMessage (message : String) : String := "Code generation failed: " ++ message

namespace Registry

open Lexicon.Source

/-- Answers about a document with a generator made for it. -/
def answer (registry : Registry) (files : Tree) (language : String) (source : SettingsSource)
    (payload : Schema.Payload) : Except RequestFault Answer := do
  let (_, generator) ← (registry.create files language source).mapError .creation
  (generator.tryOne payload none).1.mapError .generation

/-- The text for a document with a generator made for it. -/
def code (registry : Registry) (files : Tree) (language : String) (settings : Fields)
    (payload : Schema.Payload) : Except RequestFault String := do
  match ← registry.answer files language (.changes settings) payload with
  | .generated result => return result.code
  | .undecodable message => .error (.undecodable (undecodableMessage message))

end Registry

end Lexicon
