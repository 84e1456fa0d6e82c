import Lexicon.Text.Blank
import Lexicon.Text.Word
import Lexicon.Number.Double
import Lexicon.Value.Display
import Lexicon.Json.Reader
import Lexicon.Json.Writer
import Lexicon.Encoding.Unicode
import Lexicon.Schema.Walk
import Lexicon.Schema.Equality
import Lexicon.Naming.Reference
import Lexicon.Text.Layout
import Lexicon.Target.Syntax
import Lexicon.Diagnostic
import Lexicon.Target.Outline
import Lexicon.Template.Store
import Lexicon.Settings.Check
import Lexicon.Settings.Merge
import Lexicon.Run
import Lexicon.Source.Load
import Lexicon.Registry.Generate
import Lexicon.Preset
import Lexicon.Main
import Lexicon.Proofs.Generator.Declarations
import Lexicon.Proofs.Generator.Fields
import Lexicon.Proofs.Run.Isolation
import Lexicon.Proofs.Schema.Acceptance
import Lexicon.Proofs.Schema.Locality
import Lexicon.Proofs.Schema.Coverage
import Lexicon.Proofs.Generator.References
import Lexicon.Proofs.Command.Sources
import Lexicon.Proofs.Registry.Listing
import Lexicon.Proofs.Settings.Roundtrip
import Lexicon.Proofs.Generator.Independence
import Lexicon.Proofs.Generator.WireTexts
import Lexicon.Proofs.Generator.Reported
import Lexicon.Proofs.Schema.Tolerance
import Lexicon.Proofs.Target.Shape
import Lexicon.Proofs.Generator.Shape
import Lexicon.Proofs.Text.Comments
import Lexicon.Proofs.Template.Comments
import Lexicon.Proofs.Generator.Comments
import Lexicon.Proofs.Generator.NestedNames
import Lexicon.Proofs.Generator.DefinitionNames
import Lexicon.Proofs.Generator.Placeholders
import Lexicon.Proofs.Generator.Remark
import Lexicon.Proofs.Generator.Variants
import Lexicon.Proofs.Naming.Pairs
import Lexicon.Proofs.Run.Designated
import Lexicon.Proofs.Text.NormalForm
import Lexicon.Proofs.Generator.Undeclared
import Lexicon.Proofs.Settings.Answered
import Lexicon.Proofs.Template.Shadowed
import Lexicon.Proofs.Naming.Memory
import Lexicon.Proofs.Naming.Snake
import Lexicon.Proofs.Generator.Attributes
