import Typewright.Json.Reader
import Typewright.Number.Decimal
import Typewright.Options
import Typewright.Package.Files
import Typewright.Package.Reader
import Typewright.Proofs.Render.Outputs
import Typewright.Proofs.Schema.Document
import Typewright.Proofs.Package.Modules
import Typewright.Proofs.Render.WireNames
import Typewright.Proofs.Types.Boxes
import Typewright.Render.Complete
import Typewright.Schema.Hoist
import Typewright.Schema.Shape
import Typewright.Text.Lines
import Typewright.Text.Quoted
import Typewright.Text.Spelling
import Typewright.Types.Mapping
import Typewright.Proofs.Render.Layout
import Typewright.Proofs.Package.Overwrites
import Typewright.Proofs.Schema.RoundTrip
import Typewright.Proofs.Render.Defaults
import Typewright.Proofs.Render.Surroundings
import Typewright.Proofs.Schema.Building
import Typewright.Proofs.Render.VariantNames
import Typewright.Proofs.Render.Comments
import Typewright.Proofs.Render.Plain
import Typewright.Proofs.Render.Mentions
import Typewright.Proofs.Render.Required
import Typewright.Proofs.Types.Dynamic
import Typewright.Proofs.Render.Constructor
import Typewright.Proofs.Naming.Identifiers
import Typewright.Proofs.Text.CapitalWords
import Typewright.Proofs.Render.UsableVariants
import Typewright.Proofs.Package.Failures
import Typewright.Proofs.Render.RecordNames
import Typewright.Proofs.Render.NumericNames
import Typewright.Proofs.Package.Manifest
import Typewright.Proofs.Schema.Aliases
import Typewright.Proofs.Types.Additions
