import TransferBucket.Main
import TransferBucket.Operation
import TransferBucket.Proofs.Identities
import TransferBucket.Proofs.Refusal
import TransferBucket.Proofs.Guarantee
import TransferBucket.Proofs.Separation
import TransferBucket.Proofs.Envelope
import TransferBucket.Proofs.Order
import TransferBucket.Proofs.Undo
import TransferBucket.Proofs.Chain
import TransferBucket.Proofs.Encoding
import TransferBucket.Proofs.Inline
import TransferBucket.Proofs.LiteralGrammar
import TransferBucket.Proofs.JsonGrammar
import TransferBucket.Proofs.JsonRoundTrip
import TransferBucket.Proofs.Persistence
import TransferBucket.Proofs.Parallel
import TransferBucket.Proofs.Secrecy
import TransferBucket.Proofs.Remembering
import TransferBucket.Proofs.Commuting
import TransferBucket.Proofs.Reporting
import TransferBucket.Proofs.Returning
import TransferBucket.Proofs.Granting
import TransferBucket.Proofs.StoredSources
import TransferBucket.Proofs.AccountLookup
import TransferBucket.Proofs.BucketLookup
import TransferBucket.Proofs.TokenTexts
import TransferBucket.Proofs.InlineReading
import TransferBucket.Proofs.SecretBytes
import TransferBucket.Proofs.PreferenceMap
import TransferBucket.Proofs.Acceptance
import TransferBucket.Proofs.ConfigurationChoice
import TransferBucket.Proofs.NameGrammar
import TransferBucket.Proofs.AccountIds
import TransferBucket.Proofs.UnusablePreferences
import TransferBucket.Proofs.TokenEnds
