import ItemSpec.Service.Endpoint
import ItemSpec.Session.Command
import ItemSpec.Proofs.Engine.Order
import ItemSpec.Proofs.Number
import ItemSpec.Proofs.Modifier.BuiltIn
import ItemSpec.Proofs.Modifier.DisplayName
import ItemSpec.Proofs.Modifier.Tokens
import ItemSpec.Proofs.Engine.Genuine
import ItemSpec.Proofs.Engine.Denotation
import ItemSpec.Proofs.Engine.Reflexivity
import ItemSpec.Proofs.Engine.Totality
import ItemSpec.Proofs.Text.Letter
import ItemSpec.Proofs.Text.Lowering
import ItemSpec.Proofs.Item.MaterialName
import ItemSpec.Proofs.Text.Numeral
import ItemSpec.Proofs.Text.Spacing
import ItemSpec.Proofs.Key
import ItemSpec.Proofs.Engine.AmountForm
import ItemSpec.Proofs.Engine.KeySpelling
import ItemSpec.Proofs.Engine.Alternation
import ItemSpec.Proofs.Registry.Contents
import ItemSpec.Proofs.Registry.History
import ItemSpec.Proofs.Registry.OrderedMap
import ItemSpec.Proofs.Engine.Unwrapping
import ItemSpec.Proofs.Session.Custody
import ItemSpec.Proofs.Session.Isolation
import ItemSpec.Proofs.Session.Agreement
import ItemSpec.Proofs.Session.Containment
import ItemSpec.Proofs.Modifier.Repetition
import ItemSpec.Proofs.Engine.ParserSet
import ItemSpec.Proofs.Modifier.Revision
import ItemSpec.Proofs.Session.EngineFrame
import ItemSpec.Proofs.Engine.Representative
import ItemSpec.Proofs.Session.Showing
import ItemSpec.Proofs.Engine.Language
import ItemSpec.Proofs.Item.Listing
import ItemSpec.Proofs.Service.RoundTrip
import ItemSpec.Proofs.Service.Consistency
import ItemSpec.Proofs.Engine.WrittenAmount
import ItemSpec.Proofs.Engine.QuotedName
import ItemSpec.Proofs.Service.EmptySlot
import ItemSpec.Proofs.Registry.SelfReference
import ItemSpec.Proofs.Engine.Recognition
import ItemSpec.Proofs.Engine.NonInterference
import ItemSpec.Proofs.Item.Wrapping
import ItemSpec.Proofs.Text.PlaceValue
import ItemSpec.Proofs.Number.Bounded
import ItemSpec.Proofs.Engine.NormalForm
import ItemSpec.Proofs.Session.Readable
import ItemSpec.Proofs.Text.Recased
import ItemSpec.Proofs.Modifier.Recased
import ItemSpec.Proofs.Engine.Recased
import ItemSpec.Proofs.Key.NormalForm
import ItemSpec.Proofs.Modifier.Overriding
import ItemSpec.Proofs.Text.Alignment
import ItemSpec.Proofs.Modifier.Alignment
import ItemSpec.Proofs.Service.CanonicalForm
