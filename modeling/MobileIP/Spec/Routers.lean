import MobileIP.Spec.Advertiser
import MobileIP.Spec.Classifier
import MobileIP.Spec.Transformer
import MobileIP.Spec.Tunnel

/-! The input paths of the three routers of `scripts/library/{ha,fa,mn}.click`: what becomes of a
frame, from the device it is read from to the `ARPQuerier` or the routing table it is handed to. Of
Click's own elements there are `FromHost`, `HostEtherFilter`, `Classifier` and `Strip`, beside
`CheckIPHeader` and `DecIPTTL`. The annotations for paint and packet type are read behind the routing
tables only. -/

namespace MobileIP

/-- The bytes of an IP packet in a frame, as an `ARPQuerier` sends it. -/
def frame (p : Packet) (source destination : EthernetAddress) : List UInt8 :=
  (etherEncap p source destination).buffer

/-- `FromHost`: the frame as it comes from the device, with the header it takes for the IP header. -/
def FromHost.read (bytes : List UInt8) : Packet where
  buffer := bytes
  data := 0
  networkHeader := some 14
  transportHeader := 14 + 4 * ((bytes.getD 14 0).toNat % 16)

/-- `HostEtherFilter(ether)`: frames for this host, for all hosts or for a group of them. -/
def HostEtherFilter.simpleAction (ether : EthernetAddress) (p : Packet) : Option Packet :=
  let daddr := (processEtherHeader p false).1.destination
  if daddr = ether then some p
  else if daddr.isBroadcast = true then some p
  else if bit (p.u8 p.data) 0 = true then some p
  else none

/-- `Classifier(12/0806 20/0001, 12/0806 20/0002, 12/0800)`: the output, if there is one. -/
def Classifier.push (p : Packet) : Option ℕ :=
  let type := p.slice (p.data + 12) 2
  let op := p.slice (p.data + 20) 2
  if type = [8, 6] ∧ op = [0, 1] then some 0
  else if type = [8, 6] ∧ op = [0, 2] then some 1
  else if type = [8, 0] then some 2
  else none

/-- The annotation by which an `ARPQuerier` finds the next hop. Whoever sets the IP header of a
packet sets it to the destination there. -/
def Packet.dstIPAnno (p : Packet) : IPAddress := p.inAddr (p.networkHeader.getD 0 + 16)

/-- Where a router hands a packet on: on the given output of the classifier for ARP, to its routing
table, or to the `ARPQuerier` of one of its links. -/
inductive Handoff where
  | arp (link output : ℕ) (p : Packet)
  | rt (p : Packet)
  | arpq (link : ℕ) (p : Packet)
deriving DecidableEq, Repr

def RegistrationMessage.packet : RegistrationMessage → Packet
  | .request d => d.packet RegistrationRequestPacket.bytes
  | .reply d => d.packet RegistrationReplyPacket.bytes

/-- Output 0 and 1 of an agent lead to the `ARPQuerier` of the private and the public network. -/
def Emission.handoff (e : Emission) : Handoff := .arpq e.output e.message.packet

structure HomeRouter where
  mipagent : MobileIPHomeAgent
  mipadvertiser : MobileIPAdvertiser
  privateEther : EthernetAddress
  publicEther : EthernetAddress
deriving DecidableEq, Repr

namespace HomeRouter

/-- `MobileIPClassifier(REGISTRATION 1, SOLICITATION 2)`, on both links. -/
def mipclass : MobileIPClassifier where
  mappings := [(.registration, 1), (.solicitation, 2)]

example : MobileIPClassifier.configure 1 (-1) (-1) 2 (-1) = some mipclass := by decide

def fromEncap (out : List (ℕ × Packet)) : List Handoff :=
  out.flatMap fun (output, q) =>
    if output = 1 then ((DecIPTTL.simpleAction {} q).map (.arpq 1)).toList else [.rt q]

/-- Behind `CheckIPHeader`. -/
def ip (r : HomeRouter) (clock : Clock) (link : ℕ) (p : Packet) :
    Except Exception (HomeRouter × List Handoff) :=
  let output := mipclass.push p
  if output = 1 then
    match r.mipagent.push clock link p with
    | .error e => .error e
    | .ok (mipagent, out) => .ok ({ r with mipagent := mipagent }, out.map Emission.handoff)
  else if output = 2 then
    match r.mipadvertiser.simpleAction p with
    | .error e => .error e
    | .ok (mipadvertiser, out) =>
      .ok ({ r with mipadvertiser := mipadvertiser }, out.map (.arpq 0))
  -- only what comes from the public network can be for a node that is away
  else if link = 1 then
    match MobileIPEncapsulator.push r.mipagent p with
    | .error e => .error e
    | .ok out => .ok (r, fromEncap out)
  else .ok (r, [.rt p])

/-- A frame is read from the device of the private (0) or the public link (1). -/
def input (r : HomeRouter) (clock : Clock) (link : ℕ) (bytes : List UInt8) :
    Except Exception (HomeRouter × List Handoff) :=
  let ether := if link = 0 then r.privateEther else r.publicEther
  match HostEtherFilter.simpleAction ether (FromHost.read bytes) with
  | none => .ok (r, [])
  | some p =>
    match Classifier.push p with
    | none => .ok (r, [])
    | some output =>
      if output = 2 then
        match CheckIPHeader.simpleAction {} (p.pull 14) with
        | none => .ok (r, [])
        | some p => r.ip clock link p
      else .ok (r, [.arp link output p])

end HomeRouter

structure ForeignRouter where
  mipagent : MobileIPForeignAgent
  mipadvertiser : MobileIPAdvertiser
  privateEther : EthernetAddress
  publicEther : EthernetAddress
deriving DecidableEq, Repr

namespace ForeignRouter

/-- `MobileIPClassifier(REGISTRATION 1, REPLY 2, IPINIP 3, SOLICITATION 4)`, on both links. -/
def mipclass : MobileIPClassifier where
  mappings := [(.registration, 1), (.reply, 2), (.ipinip, 3), (.solicitation, 4)]

example : MobileIPClassifier.configure 1 2 3 4 (-1) = some mipclass := by decide

def fromDec (out : List (ℕ × Packet)) : List Handoff :=
  out.flatMap fun (output, q) =>
    if output = 1 then ((DecIPTTL.simpleAction {} q).map (.arpq 0)).toList else []

/-- Behind `CheckIPHeader`. Requests come from the private network only, replies from the public
one. -/
def ip (r : ForeignRouter) (clock : Clock) (ttl : UInt32) (link : ℕ) (p : Packet) :
    Except Exception (ForeignRouter × List Handoff) :=
  let output := mipclass.push p
  if output = 1 ∧ link = 0 ∨ output = 2 ∧ link = 1 then
    match r.mipagent.push clock ttl link p with
    | .error e => .error e
    | .ok (mipagent, out) => .ok ({ r with mipagent := mipagent }, out.map Emission.handoff)
  else if output = 1 ∨ output = 2 then .ok (r, [])
  else if output = 3 then .ok (r, fromDec (MobileIPDecapsulator.push r.mipagent p))
  else if output = 4 then
    match r.mipadvertiser.simpleAction p with
    | .error e => .error e
    | .ok (mipadvertiser, out) =>
      .ok ({ r with mipadvertiser := mipadvertiser }, out.map (.arpq 0))
  else .ok (r, [.rt p])

/-- A frame is read from the device of the private (0) or the public link (1). On the private link
only ARP is filtered by the address of the frame. -/
def input (r : ForeignRouter) (clock : Clock) (ttl : UInt32) (link : ℕ) (bytes : List UInt8) :
    Except Exception (ForeignRouter × List Handoff) :=
  let ether := if link = 0 then r.privateEther else r.publicEther
  let p := FromHost.read bytes
  match Classifier.push p with
  | none => .ok (r, [])
  | some output =>
    if HostEtherFilter.simpleAction ether p = none ∧ ¬ (link = 0 ∧ output = 2) then .ok (r, [])
    else if output = 2 then
      match CheckIPHeader.simpleAction {} (p.pull 14) with
      | none => .ok (r, [])
      | some p => r.ip clock ttl link p
    else .ok (r, [.arp link output p])

end ForeignRouter

/-- `MobileIPSoliciter::sendSolicitation(destination)`, with the configured `LINK_ADDRESS`. -/
def MobileIPSoliciter.sendSolicitation (linkAddress destination : IPAddress) : Packet :=
  ICMPIPfy buildRouterSolicitationMessage linkAddress destination 1

structure MobileRouter where
  host : MobileHost
  ether : EthernetAddress
deriving DecidableEq, Repr

/-- What the input of a mobile node finds outside its elements. -/
structure HostContext where
  now : ℕ
  send : SendContext
  unset : UnsetAdvertisement

namespace MobileRouter

/-- `MobileIPClassifier(REPLY 1, ADVERTISEMENT 2)`. -/
def mipclass : MobileIPClassifier where
  mappings := [(.reply, 1), (.advertisement, 2)]

example : MobileIPClassifier.configure (-1) 1 (-1) (-1) 2 = some mipclass := by decide

/-- A frame is read from the device. It is classified with its Ethernet header, and no check of its
IP header is made before. -/
def input (r : MobileRouter) (ctx : HostContext) (bytes : List UInt8) :
    Except Exception (MobileRouter × List Handoff) :=
  match HostEtherFilter.simpleAction r.ether (FromHost.read bytes) with
  | none => .ok (r, [])
  | some p =>
    match Classifier.push p with
    | none => .ok (r, [])
    | some output =>
      if output = 2 then
        let output := mipclass.push p
        if output = 1 then
          match r.host.MN.push ctx.send (p.pull 14) with
          | .error e => .error e
          | .ok (MN, out) =>
            .ok ({ r with host := { r.host with MN := MN } }, out.map Emission.handoff)
        else if output = 2 then
          match r.host.simpleAction ctx.now ctx.send ctx.unset p with
          | .error e => .error e
          | .ok (host, out) => .ok ({ r with host := host }, out.map Emission.handoff)
        else .ok (r, ((CheckIPHeader.simpleAction {} (p.pull 14)).map .rt).toList)
      else .ok (r, [.arp 0 output p])

end MobileRouter

end MobileIP
