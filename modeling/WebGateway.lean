import WebGateway.Main
import WebGateway.Proofs.Http.FieldText
import WebGateway.Proofs.Routing.Decision
import WebGateway.Proofs.Assets.Containment
import WebGateway.Proofs.Relay.EndToEnd
import WebGateway.Proofs.Http.UriReading
import WebGateway.Proofs.Relay.Sending
import WebGateway.Proofs.Gateway.Handling
import WebGateway.Proofs.Gateway.Fidelity
import WebGateway.Proofs.Gateway.Replies
import WebGateway.Proofs.Net.AddressText
import WebGateway.Proofs.Net.Binding
import WebGateway.Proofs.Relay.ClientChain
import WebGateway.Proofs.Assets.Redirection
import WebGateway.Proofs.Gateway.Identification
import WebGateway.Proofs.Assets.Sightings
import WebGateway.Proofs.Config.TlsFlags
import WebGateway.Proofs.Service.Steps
import WebGateway.Proofs.Service.Stages
import WebGateway.Proofs.Service.FirstFailure
import WebGateway.Proofs.Gateway.Separation
import WebGateway.Proofs.Gateway.LastHop
import WebGateway.Proofs.Gateway.ResponseIdentifier
import WebGateway.Proofs.Service.Ledger
import WebGateway.Proofs.Service.Signals
import WebGateway.Proofs.Http.FieldNames
import WebGateway.Proofs.Relay.Stripping
import WebGateway.Proofs.Text.Escapes
import WebGateway.Proofs.Assets.Spelling
import WebGateway.Proofs.Url.DomainText
import WebGateway.Proofs.Http.AuthorityReading
import WebGateway.Proofs.Url.Parts
import WebGateway.Proofs.Backend.Authority
import WebGateway.Proofs.Backend.Rewriting
import WebGateway.Proofs.Relay.Usability
import WebGateway.Proofs.Routing.Acceptance
import WebGateway.Proofs.Assets.Directories
import WebGateway.Proofs.Gateway.StaticAnswers
import WebGateway.Proofs.Disk.Trees
import WebGateway.Proofs.Disk.Relisting
import WebGateway.Proofs.Assets.Listing
import WebGateway.Proofs.Assets.Loading
import WebGateway.Proofs.Config.TlsFaults
import WebGateway.Proofs.Relay.Wrapping
