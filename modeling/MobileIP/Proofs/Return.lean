import MobileIP.Proofs.Advertised
import MobileIP.Proofs.Exchange
import MobileIP.Proofs.Forwarding
import MobileIP.Proofs.Homecoming

/-! A node that comes back to its home link gives up the care-of address that it remembers. From
then on its packets stay at home exactly if that was the only address it was bound to. -/

namespace MobileIP

open Machine

namespace Wires

variable {ι : Type} [DecidableEq ι] {routes : Routes ι} {w w' : Wires ι} {net net' : Network ι}

structure AtHome (routes : Routes ι) (net : Network ι) : Prop where
  MN : net.MN.Reachable
  link : routes.link net.HA.privateAddress = some .home
  privateAddress : net.MN.homeAgentPrivateAddress = net.HA.privateAddress
  publicAddress : net.MN.homeAgentPublicAddress = net.HA.publicAddress

/-- The request by which the node gives up the care-of address it remembers. -/
def givenUp (net : Network ι) (ctx : SendContext) : Datagram RegistrationRequestPacket :=
  net.MN.sentDatagram ctx net.HA.privateAddress net.MN.connection.careOfAddress 0

omit [DecidableEq ι] in
theorem AtHome.request (h : AtHome routes net) {ctx : SendContext} (h0 : ctx.identification ≠ 0) :
    (givenUp net ctx).request = plainRequest 0 net.MN.homeAddress net.HA.publicAddress
      net.MN.connection.careOfAddress ⟨net.MN.sourcePort, 434⟩
      ⟨net.MN.homeAddress, net.HA.privateAddress⟩ ctx.identification := by
  simp only [givenUp, MobileIPNode.sentDatagram, h.publicAddress]
  exact request_UDPIPfy (by decide) h.MN.sourcePort (by decide) h0 _ _ _ _ _ _ _

section Examples

open Definitions

/-- The node of the scripts once it is connected to the foreign agent, where it was bound before. -/
def away : Wires Bool :=
  { wires with
    MN := { wires.MN with host :=
      { MN := (mobileNode.reregister (sendAt 1) foreignAgentPrivateAddress foreignAgentPublicAddress
          60).1
        soliciter :=
          { connected := true
            agentAddress := foreignAgentPrivateAddress
            firstConnection := false } } }
    HA := boundRouter }

end Examples

end Wires

end MobileIP
