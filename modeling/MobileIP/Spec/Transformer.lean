import MobileIP.Spec.Builders
import MobileIP.Spec.Soliciter

/-! `MobileIPPacketTransformer`, which puts the packets of a mobile node that is away into frames for
its agent. -/

namespace MobileIP

namespace EthernetAddress

def isZero (a : EthernetAddress) : Bool := decide (∀ i : Fin 6, a.eth[i] = 0)

def isBroadcast (a : EthernetAddress) : Bool := decide (∀ i : Fin 6, a.eth[i] = 255)

end EthernetAddress

def MobileHost.isHome (h : MobileHost) : Bool :=
  if h.soliciter.connected = false then true
  else if h.soliciter.connected = true ∧
    h.soliciter.agentAddress = h.MN.homeAgentPrivateAddress then true
  else false

def Etherfy (packet : Packet) (source destination : EthernetAddress) : Packet :=
  etherEncap packet source destination

/-- The packets pushed, each with its output. `useCount` is Click's count of the references to `p`:
`uniqueify` copies a packet that has others beside this one, and returns any other packet itself. -/
def MobileIPPacketTransformer.push (h : MobileHost) (p : Packet) (useCount : ℕ) :
    Except Exception (List (ℕ × Packet)) :=
  if h.isHome = false ∧ h.soliciter.agentMAC.isZero = false then
    let (ether, q) := processEtherHeader p false
    let q := Etherfy q ether.source h.soliciter.agentMAC
    if ether.destination.isBroadcast = true then
      -- `p` has become the frame, unless the frame is in a copy
      .ok [(1, if 1 < useCount then p else q)]
    else if 1 < useCount then .ok [(1, q)]
    -- `p->kill()` has freed the frame
    else .error (.undefinedBehaviour "output(1).push(q)")
  else .ok [(0, p)]

end MobileIP
