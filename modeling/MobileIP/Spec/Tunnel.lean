import MobileIP.Spec.ForeignAgent
import MobileIP.Spec.HomeAgent

/-! The tunnel: `buildTunnelIPPacket`, `MobileIPEncapsulator` and `MobileIPDecapsulator`, and
Click's `DecIPTTL` (`elements/ip/decipttl.cc`), which stands between the two. -/

namespace MobileIP

/-- `ip_header()` of the original packet is read through its network header. -/
def buildTunnelIPPacket (originalPacket : Packet) (source destination : IPAddress) : Packet :=
  let originalIP := originalPacket.networkHeader.getD 0
  let tos := originalPacket.u8 (originalIP + 1)
  -- decrease TTL by one
  let ttl := originalPacket.u8 (originalIP + 8) - 1
  let len := originalPacket.length + 20
  let sum := clickInCksum (ipHeaderBytes tos len ttl 4 0 source destination)
  { buffer := ipHeaderBytes tos len ttl 4 sum source destination ++ originalPacket.bytes
    data := 0
    networkHeader := some 0
    transportHeader := 20 }

/-- `MobileIPEncapsulator::push`: the packets pushed, each with its output. Nothing is caught. -/
def MobileIPEncapsulator.push (HA : MobileIPHomeAgent) (p : Packet) :
    Except Exception (List (ℕ × Packet)) :=
  match processIPHeader p with
  | (.error e, _) => .error e
  | (.ok ip, p) =>
    if MobilityBindingList.isMobileBinded ip.destination HA.mobilityBindings then
      let destination := MobilityBindingList.getCareOfAddress ip.destination HA.mobilityBindings
      .ok [(1, buildTunnelIPPacket p HA.publicAddress destination)]
    else .ok [(0, p)]

/-- `MobileIPDecapsulator::push`. A packet for a node that is not in the visitor list is ignored. -/
def MobileIPDecapsulator.push (FA : MobileIPForeignAgent) (p : Packet) : List (ℕ × Packet) :=
  if getPacketType p = .ipinip then
    let (ipinip, p) := processTunnelIPPacket p true
    if VisitorList.has ipinip.originalIP.destination ipinip.source FA.visitors then [(1, p)] else []
  else [(0, p)]

def IPAddress.isMulticast (a : IPAddress) : Bool := decide (a.a.toNat / 16 = 14)

structure DecIPTTL where
  active : Bool := true
  multicast : Bool := true
deriving DecidableEq, Repr

/-- The packet that is passed on, unless it has no time left. The source asserts that there is a
network header. -/
def DecIPTTL.simpleAction (e : DecIPTTL) (p : Packet) : Option Packet :=
  match p.networkHeader with
  | none => none
  | some ip =>
    if e.active = false then some p
    else if e.multicast = false ∧ (p.inAddr (ip + 16)).isMulticast = true then some p
    else if p.u8 (ip + 8) ≤ 1 then none
    else
      let p := p.setU8 (ip + 8) (p.u8 (ip + 8) - 1)
      -- the checksum is updated as RFC 1624 has it
      let sum := 65535 - ntohs (p.u16 (ip + 10)) + 0xFEFF
      some (p.setU16 (ip + 10) (65535 - htons (sum + sum / 65536)))

end MobileIP
