import Depository.Ledger.Shared
import Depository.LogFilter
import Depository.Proofs.Store.Overlay
import Depository.Proofs.Books
import Depository.Proofs.Staging
import Depository.Proofs.Ledger.Ruling
import Depository.Proofs.Ledger.Perform
import Depository.Proofs.Ledger.History
import Depository.Proofs.Ledger.Plain
import Depository.Proofs.Trail.Replay
import Depository.Proofs.Trail.Integrity
import Depository.Proofs.Json.Literal
import Depository.Proofs.Json.Written
import Depository.Proofs.Hex
import Depository.Proofs.Trail.Encoding
import Depository.Proofs.Trail.Binding
import Depository.Proofs.Ledger.Refinement
import Depository.Proofs.Store.Visits
import Depository.Proofs.Ledger.Payouts
import Depository.Proofs.Grouping
import Depository.Proofs.Ledger.Conservation
import Depository.Proofs.Ledger.Unaudited
import Depository.Proofs.Stamps
import Depository.Proofs.Ledger.Numbering
import Depository.Proofs.Ledger.Roots
import Depository.Proofs.Ledger.Authority
import Depository.Proofs.Ledger.Poisoning
import Depository.Proofs.Ledger.Isolation
import Depository.Proofs.Pending
import Depository.Proofs.Trail.Stale
import Depository.Proofs.Store.Backlog
import Depository.Proofs.Trail.Faults
import Depository.Proofs.Capabilities
import Depository.Proofs.Numbered
import Depository.Proofs.Leftovers
import Depository.Proofs.Json.Numeral
import Depository.Proofs.Json.Reading
import Depository.Proofs.Json.RoundTrip
import Depository.Proofs.WrittenForms
import Depository.Proofs.Commitments
import Depository.Proofs.Ledger.Commuting
import Depository.Proofs.Ledger.Overdraft
import Depository.Proofs.Store.Adding
import Depository.Proofs.Fitting
import Depository.Proofs.Settings
import Depository.Proofs.Steps
import Depository.Proofs.Tally
import Depository.Proofs.Ledger.Log
