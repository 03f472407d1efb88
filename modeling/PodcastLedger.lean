import PodcastLedger.Main
import PodcastLedger.Session
import PodcastLedger.Time.Elapsed
import PodcastLedger.Proofs.Ledger.Gains
import PodcastLedger.Proofs.Ledger.Write
import PodcastLedger.Proofs.Ledger.Effect
import PodcastLedger.Proofs.Ledger.Consistency
import PodcastLedger.Proofs.Ledger.Reachability
import PodcastLedger.Proofs.Ledger.Evolution
import PodcastLedger.Proofs.Sync.Convergence
import PodcastLedger.Proofs.Sync.Readers
import PodcastLedger.Proofs.Sync.Turns
import PodcastLedger.Proofs.Isolation.Mirror
import PodcastLedger.Proofs.Isolation.Translation
import PodcastLedger.Proofs.Isolation.Mirroring
import PodcastLedger.Proofs.Isolation.Devices
import PodcastLedger.Proofs.Isolation.Subscriptions
import PodcastLedger.Proofs.Isolation.Log
import PodcastLedger.Proofs.Isolation.Settings
import PodcastLedger.Proofs.Isolation.Views
import PodcastLedger.Proofs.Isolation.Frame
import PodcastLedger.Proofs.Isolation.Answers
import PodcastLedger.Proofs.Isolation.Noninterference
import PodcastLedger.Proofs.Isolation.Destruction
import PodcastLedger.Proofs.Canonical.Escapes
import PodcastLedger.Proofs.Canonical.Paths
import PodcastLedger.Proofs.Canonical.Numerals
import PodcastLedger.Proofs.Canonical.NumericHosts
import PodcastLedger.Proofs.Canonical.BracketedHosts
import PodcastLedger.Proofs.Canonical.DomainNames
import PodcastLedger.Proofs.Canonical.Hosts
import PodcastLedger.Proofs.Canonical.Authorities
import PodcastLedger.Proofs.Canonical.Addresses
import PodcastLedger.Proofs.Canonical.Stability
import PodcastLedger.Proofs.Canonical.Storable
import PodcastLedger.Proofs.Canonical.Grammar
import PodcastLedger.Proofs.Canonical.LetterCase
import PodcastLedger.Proofs.Canonical.Spellings
import PodcastLedger.Proofs.Statements.Procedure
import PodcastLedger.Proofs.Statements.Operations
import PodcastLedger.Proofs.Statements.Plain
import PodcastLedger.Proofs.Uploads.Turning
import PodcastLedger.Proofs.Uploads.Cataloguing
import PodcastLedger.Proofs.Uploads.Uploaded
import PodcastLedger.Proofs.Uploads.RowByRow
import PodcastLedger.Proofs.Uploads.Replacement
import PodcastLedger.Proofs.Uploads.Standing
import PodcastLedger.Proofs.Uploads.Change
import PodcastLedger.Proofs.Uploads.Interchange
import PodcastLedger.Proofs.Uploads.Rewrites
import PodcastLedger.Proofs.Listing.Order
import PodcastLedger.Proofs.Listing.Reduction
import PodcastLedger.Proofs.Listing.Selection
import PodcastLedger.Proofs.Settings.Bindings
import PodcastLedger.Proofs.Settings.Statements
import PodcastLedger.Proofs.Settings.Saving
import PodcastLedger.Proofs.Settings.Resolution
import PodcastLedger.Proofs.Log.Placing
import PodcastLedger.Proofs.Log.Remembering
import PodcastLedger.Proofs.Log.Logging
import PodcastLedger.Proofs.Listing.Readers
import PodcastLedger.Proofs.Log.Retrieval
import PodcastLedger.Proofs.Constraints.Schema
import PodcastLedger.Proofs.Constraints.Statements
import PodcastLedger.Proofs.Constraints.Conformity
import PodcastLedger.Proofs.Constraints.Uploads
import PodcastLedger.Proofs.Constraints.Accounts
import PodcastLedger.Proofs.Constraints.Refusals
import PodcastLedger.Proofs.Constraints.Safety
import PodcastLedger.Proofs.Log.Batches
import PodcastLedger.Proofs.Log.History
import PodcastLedger.Proofs.Sync.Transitions
import PodcastLedger.Proofs.Sync.Accounting
import PodcastLedger.Proofs.Sync.Rows
import PodcastLedger.Proofs.Sync.Independence
import PodcastLedger.Proofs.Transactions.Work
import PodcastLedger.Proofs.Transactions.Rollback
import PodcastLedger.Proofs.Checks
import PodcastLedger.Proofs.Log.Defects
import PodcastLedger.Proofs.Accounts.Creation
import PodcastLedger.Proofs.Devices.Naming
import PodcastLedger.Proofs.Devices.Registry
import PodcastLedger.Proofs.Devices.Ending
import PodcastLedger.Proofs.Devices.Renewal
