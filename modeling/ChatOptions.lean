import ChatOptions.Config.Load
import ChatOptions.Decimal.Literal
import ChatOptions.Model
import ChatOptions.Options.Equality
import ChatOptions.Resolution
import ChatOptions.Version
import ChatOptions.Proofs.Decimal.Double
import ChatOptions.Proofs.Json.Digest
import ChatOptions.Proofs.SortedMap
import ChatOptions.Proofs.Json.Normal
import ChatOptions.Proofs.Options.Equality
import ChatOptions.Proofs.Options.Hashing
import ChatOptions.Proofs.Json.Content
import ChatOptions.Proofs.Json.Reader
import ChatOptions.Proofs.Options.LastWrites
import ChatOptions.Proofs.Options.Wire
import ChatOptions.Proofs.Config.Interpolation
import ChatOptions.Proofs.Config.Loading
import ChatOptions.Proofs.Config.Splitting
import ChatOptions.Proofs.Resolution
import ChatOptions.Proofs.Options.Agreement
import ChatOptions.Proofs.Config.Agreement
import ChatOptions.Proofs.Resolution.Outcome
import ChatOptions.Proofs.Options.Shown
import ChatOptions.Proofs.Json.Alike
import ChatOptions.Proofs.Json.Layout
import ChatOptions.Proofs.Json.Order
import ChatOptions.Proofs.Options.Ordering
import ChatOptions.Proofs.Options.Merging
import ChatOptions.Proofs.Options.Encoding
import ChatOptions.Proofs.Options.Insertion
import ChatOptions.Proofs.Registry
import ChatOptions.Proofs.Json.PrefixFree
import ChatOptions.Proofs.Config.Equality
