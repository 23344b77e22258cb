import QuotaBoard.Main
import QuotaBoard.Proofs.Fallback
import QuotaBoard.Proofs.Isolation
import QuotaBoard.Proofs.Requests
import QuotaBoard.Proofs.Summaries
import QuotaBoard.Proofs.Ranges
import QuotaBoard.Proofs.Drift
import QuotaBoard.Proofs.SchemaDrift
import QuotaBoard.Proofs.PrimaryKey
import QuotaBoard.Proofs.Lines
import QuotaBoard.Proofs.Overlap
import QuotaBoard.Proofs.FanOut
import QuotaBoard.Proofs.LateResults
import QuotaBoard.Proofs.Replies
import QuotaBoard.Proofs.Settings
import QuotaBoard.Proofs.Layers
import QuotaBoard.Proofs.Endpoints
import QuotaBoard.Proofs.Grouping
import QuotaBoard.Proofs.PartialDocuments
import QuotaBoard.Proofs.RoundTrips
import QuotaBoard.Proofs.Buckets
import QuotaBoard.Proofs.Windows
import QuotaBoard.Proofs.IdTokens
import QuotaBoard.Proofs.Accounts
import QuotaBoard.Proofs.Reorderings
import QuotaBoard.Proofs.MalformedFractions
import QuotaBoard.Proofs.Overwriting
import QuotaBoard.Proofs.TierChanges
import QuotaBoard.Proofs.KeptAddresses
import QuotaBoard.Proofs.GroupIds
import QuotaBoard.Proofs.TestCommands
import QuotaBoard.Proofs.RelativeResets
import QuotaBoard.Proofs.LeastPercent
import QuotaBoard.Proofs.Refusals
import QuotaBoard.Proofs.Projects
import QuotaBoard.Proofs.NormalForms
