import MobileIP.Proofs.Access
import MobileIP.Proofs.Advertised
import MobileIP.Proofs.Advertisements
import MobileIP.Proofs.AgentReset
import MobileIP.Proofs.Agreement
import MobileIP.Proofs.Arrival
import MobileIP.Proofs.BindingHistory
import MobileIP.Proofs.BindingLifetimes
import MobileIP.Proofs.Bindings
import MobileIP.Proofs.Checksum
import MobileIP.Proofs.Classifier
import MobileIP.Proofs.CurrentAgent
import MobileIP.Proofs.Datagrams
import MobileIP.Proofs.Decapsulation
import MobileIP.Proofs.Decodes
import MobileIP.Proofs.Decrement
import MobileIP.Proofs.Deliveries
import MobileIP.Proofs.Elements
import MobileIP.Proofs.Emissions
import MobileIP.Proofs.Encapsulation
import MobileIP.Proofs.Exceptions
import MobileIP.Proofs.Exchange
import MobileIP.Proofs.FalseRestarts
import MobileIP.Proofs.Following
import MobileIP.Proofs.ForeignAgent
import MobileIP.Proofs.Forwarding
import MobileIP.Proofs.Frames
import MobileIP.Proofs.GrantedLifetimes
import MobileIP.Proofs.Granting
import MobileIP.Proofs.Handover
import MobileIP.Proofs.HeaderLength
import MobileIP.Proofs.Headers
import MobileIP.Proofs.HeardAdvertisements
import MobileIP.Proofs.Holdings
import MobileIP.Proofs.HomeAgent
import MobileIP.Proofs.HomeAgentReplies
import MobileIP.Proofs.HomeRegistrations
import MobileIP.Proofs.Homecoming
import MobileIP.Proofs.Isolation
import MobileIP.Proofs.Joining
import MobileIP.Proofs.Landing
import MobileIP.Proofs.Legible
import MobileIP.Proofs.Link
import MobileIP.Proofs.LinkLifetime
import MobileIP.Proofs.Lists
import MobileIP.Proofs.Messages
import MobileIP.Proofs.Node
import MobileIP.Proofs.NodeReplies
import MobileIP.Proofs.NodeTimer
import MobileIP.Proofs.PendingBounds
import MobileIP.Proofs.PendingRequests
import MobileIP.Proofs.Provenance
import MobileIP.Proofs.Quiescence
import MobileIP.Proofs.ReaderEffects
import MobileIP.Proofs.Relay
import MobileIP.Proofs.RelayedRequests
import MobileIP.Proofs.Renewal
import MobileIP.Proofs.Renewing
import MobileIP.Proofs.ReplyHandling
import MobileIP.Proofs.ReplySources
import MobileIP.Proofs.Return
import MobileIP.Proofs.RoundTrips
import MobileIP.Proofs.Routers
import MobileIP.Proofs.SequenceNumbers
import MobileIP.Proofs.Settling
import MobileIP.Proofs.Solicited
import MobileIP.Proofs.Soliciter
import MobileIP.Proofs.Storms
import MobileIP.Proofs.Timeouts
import MobileIP.Proofs.Timers
import MobileIP.Proofs.Transformer
import MobileIP.Proofs.Tunnel
import MobileIP.Proofs.TunnelRouters
import MobileIP.Proofs.UnsetFields
import MobileIP.Proofs.UnsetMemory
import MobileIP.Proofs.Verdicts
import MobileIP.Proofs.VisitorUpdates
import MobileIP.Proofs.Visitors
import MobileIP.Proofs.Weights
import MobileIP.Proofs.WireSteps
import MobileIP.Proofs.Wires
import MobileIP.Spec.Advertiser
import MobileIP.Spec.Classifier
import MobileIP.Spec.Definitions
import MobileIP.Spec.Link
import MobileIP.Spec.Network
import MobileIP.Spec.Routers
import MobileIP.Spec.Soliciter
import MobileIP.Spec.Tunnel
import MobileIP.Spec.Wires
