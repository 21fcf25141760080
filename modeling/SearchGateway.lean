import SearchGateway.Access.Crew
import SearchGateway.Main
import SearchGateway.Policy.Current
import SearchGateway.Proofs.Gateway.Searching
import SearchGateway.Proofs.Params.Merging
import SearchGateway.Proofs.Access.Screening
import SearchGateway.Proofs.Access.Crew
import SearchGateway.Proofs.Number.Doubles
import SearchGateway.Proofs.Policy.Compiling
import SearchGateway.Proofs.Policy.Limit
import SearchGateway.Proofs.Params.Query
import SearchGateway.Proofs.Gateway.Forwarding
import SearchGateway.Proofs.Number.Integers
import SearchGateway.Proofs.Policy.FieldList
import SearchGateway.Proofs.Policy.Legality
import SearchGateway.Proofs.Policy.Breakdown
import SearchGateway.Proofs.Policy.Comparing
import SearchGateway.Proofs.Policy.Growth
import SearchGateway.Proofs.Policy.Monotone
import SearchGateway.Proofs.Scripts
import SearchGateway.Proofs.Json.RoundTrip
import SearchGateway.Proofs.Access.Redaction
import SearchGateway.Proofs.Access.Markup
import SearchGateway.Proofs.Gateway.Echoing
import SearchGateway.Proofs.Access.Verdicts
import SearchGateway.Proofs.Gateway.Sessions
import SearchGateway.Proofs.Gateway.Suggesting
import SearchGateway.Proofs.Json.Numbers
import SearchGateway.Proofs.Json.Parts
import SearchGateway.Proofs.Replacing
import SearchGateway.Proofs.Steps
import SearchGateway.Proofs.Config.Checking
import SearchGateway.Proofs.Gateway.Reloads
import SearchGateway.Proofs.Access.Sharing
import SearchGateway.Proofs.Access.Failing
import SearchGateway.Proofs.Params.RoundTrip
import SearchGateway.Proofs.Policy.Wildcard
import SearchGateway.Proofs.Policy.Scanning
import SearchGateway.Proofs.Gateway.Watching
import SearchGateway.Proofs.Gateway.Disclosure
import SearchGateway.Proofs.Gateway.Snapshots
import SearchGateway.Proofs.Policy.Reordering
import SearchGateway.Proofs.Access.Phrase
import SearchGateway.Proofs.Access.Cutting
import SearchGateway.Proofs.Text.Trimming
import SearchGateway.Proofs.Access.Granting
import SearchGateway.Proofs.Gateway.Entitling
import SearchGateway.Proofs.Policy.Naming
import SearchGateway.Proofs.Number.Packing
import SearchGateway.Proofs.Policy.Pricing
import SearchGateway.Proofs.Backend.Logging
import SearchGateway.Proofs.Gateway.Identifying
