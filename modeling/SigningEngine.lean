import SigningEngine.Text.AlphanumericTable
import SigningEngine.Text.Blank
import SigningEngine.Text.Case
import SigningEngine.Text.Numeral
import SigningEngine.Text.Quoted
import SigningEngine.Text.Search
import SigningEngine.Json.Reader
import SigningEngine.Json.Record
import SigningEngine.Json.Writer
import SigningEngine.Environment
import SigningEngine.Event
import SigningEngine.Context.Config
import SigningEngine.Logging.Config
import SigningEngine.Software.Config
import SigningEngine.Logging.Filter
import SigningEngine.Crypto.Ecdsa
import SigningEngine.Crypto.Rsa
import SigningEngine.Signature
import SigningEngine.Software.Engine
import SigningEngine.World
import SigningEngine.Session.Run
import SigningEngine.Context.SharedValue
import SigningEngine.Bytes.Lemmas
import SigningEngine.Crypto.Modular.Lemmas
import SigningEngine.Proofs.Run
import SigningEngine.Proofs.Along
import SigningEngine.Proofs.Moves
import SigningEngine.Proofs.Matching
import SigningEngine.Proofs.Software.Evolution
import SigningEngine.Proofs.World
import SigningEngine.Proofs.Signature.Operation
import SigningEngine.Proofs.Signature.Calls
import SigningEngine.Proofs.Signature.Notes
import SigningEngine.Proofs.Signature.Binding
import SigningEngine.Proofs.Signature.StaleInput
import SigningEngine.Proofs.Signature.Coverage
import SigningEngine.Proofs.Signature.Outcomes
import SigningEngine.Proofs.Session.Apart
import SigningEngine.Proofs.Session.Steps
import SigningEngine.Proofs.Session.Coverage
import SigningEngine.Proofs.Context.Creation
import SigningEngine.Proofs.Context.SharedValue
import SigningEngine.Proofs.Context.KeptValues
import SigningEngine.Proofs.Context.Exhaustion
import SigningEngine.Proofs.Context.NotInFipsMode
import SigningEngine.Proofs.Software.Handles
import SigningEngine.Proofs.Custody
import SigningEngine.Proofs.Session.Custody
import SigningEngine.Proofs.Session.KeptKeys
import SigningEngine.Proofs.Signature.Isolation
import SigningEngine.Proofs.Session.Interleaving
import SigningEngine.Proofs.Crypto.Primality
import SigningEngine.Proofs.Crypto.Rsa
import SigningEngine.Proofs.Software.RsaSignatures
import SigningEngine.Proofs.Session.Worlds
import SigningEngine.Proofs.Session.Lives
import SigningEngine.Proofs.Session.Generated
import SigningEngine.Proofs.Session.BoundKey
import SigningEngine.Proofs.Crypto.Der
import SigningEngine.Proofs.Crypto.P256.Primes
import SigningEngine.Proofs.Crypto.P256.Curve
import SigningEngine.Proofs.Crypto.Ecdsa
import SigningEngine.Proofs.Software.KeyPairs
import SigningEngine.Proofs.Session.Turns
import SigningEngine.Proofs.Session.RoundTrip
import SigningEngine.Proofs.Session.Outcomes
import SigningEngine.Proofs.Observed
import SigningEngine.Proofs.Holdings.Owner
import SigningEngine.Proofs.Holdings.Run
import SigningEngine.Proofs.Holdings.Contexts
import SigningEngine.Proofs.Holdings.Checks
import SigningEngine.Proofs.Holdings.Lifetimes
import SigningEngine.Proofs.Holdings.Moves
import SigningEngine.Proofs.Holdings.Unobserved
import SigningEngine.Proofs.Software.KeptDigests
import SigningEngine.Proofs.Holdings.LiveDigests
import SigningEngine.Proofs.Software.Footprint
import SigningEngine.Proofs.Context.SoftwareCreation
import SigningEngine.Proofs.Software.Resemblance
import SigningEngine.Proofs.Resemblance
import SigningEngine.Proofs.Session.Resemblance
import SigningEngine.Proofs.Session.Noninterference
import SigningEngine.Proofs.Signature.Slices
import SigningEngine.Proofs.Text.Trimming
import SigningEngine.Proofs.Text.Numerals
import SigningEngine.Proofs.Text.LetterCase
import SigningEngine.Proofs.Text.UpperCase
import SigningEngine.Proofs.Settings
import SigningEngine.Proofs.Context.Environment
import SigningEngine.Proofs.Session.KeySlots
import SigningEngine.Proofs.Session.KeyIdentity
import SigningEngine.Proofs.Software.KeptContexts
import SigningEngine.Proofs.Context.Settled
import SigningEngine.Proofs.Holdings.SettledContexts
import SigningEngine.Proofs.Json.Grammar
import SigningEngine.Proofs.Json.Scanning
import SigningEngine.Proofs.Json.Reading
import SigningEngine.Proofs.Json.Writing
import SigningEngine.Proofs.Json.Records
import SigningEngine.Proofs.Documents
import SigningEngine.Proofs.Spellings
import SigningEngine.Proofs.Logging.Directives
import SigningEngine.Proofs.Logging.Filters
import SigningEngine.Proofs.Logging.SetUp
