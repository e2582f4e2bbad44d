import MobileIP.Spec.Definitions
import MobileIP.Spec.Routers

/-! The parties of `Network` as the routers of the scripts, joined by the frames in flight between
them. A frame is read by the router at whose device it arrives, checked, classified and decoded there.
What the routers hand to their routing tables is not followed, and of ARP there is only its outcome:
an address of the link or of the public network leads to the agent that `Routes` names, and the node
answers for its home address. -/

namespace MobileIP

def EthernetAddress.broadcast : EthernetAddress := ⟨Vector.replicate 6 255⟩

/-- A device that frames are read from: that of the node, or that of an agent on its private (0) or
public (1) link. -/
inductive Place (ι : Type) where
  | node
  | agent (a : Agent ι) (link : ℕ)
deriving DecidableEq, Repr

structure Wires (ι : Type) where
  MN : MobileRouter
  FA : ι → ForeignRouter
  HA : HomeRouter
  frames : List (Place ι × List UInt8) := []

/-- What the handling of one frame finds outside the elements. -/
structure WireContext where
  clock : Clock
  ttl : UInt32
  host : HostContext

namespace Wires

variable {ι : Type} [DecidableEq ι] (routes : Routes ι)

def ether (w : Wires ι) : Place ι → EthernetAddress
  | .node => w.MN.ether
  | .agent .home link => if link = 0 then w.HA.privateEther else w.HA.publicEther
  | .agent (.foreign i) link => if link = 0 then (w.FA i).privateEther else (w.FA i).publicEther

/-- An `ARPQuerier` sends a packet in a frame for the next hop, or for all if it is for all. -/
def send (w : Wires ι) (source destination : Place ι) (p : Packet) : Place ι × List UInt8 :=
  let dhost := if p.dstIPAnno = .broadcast then .broadcast else w.ether destination
  (destination, frame p (w.ether source) dhost)

/-- What an agent has handed on goes to the node on its link, or to another agent. -/
def fromAgent (w : Wires ι) (a : Agent ι) : Handoff → List (Place ι × List UInt8)
  | .arpq link p =>
    if link = 0 then
      if p.dstIPAnno = .broadcast ∨ p.dstIPAnno = w.MN.host.MN.homeAddress then
        [w.send (.agent a 0) .node p]
      else []
    else
      match routes.backbone p.dstIPAnno with
      | some a' => if a' = a then [] else [w.send (.agent a 1) (.agent a' 1) p]
      | none => []
  | _ => []

def fromNode (w : Wires ι) : Handoff → List (Place ι × List UInt8)
  | .arpq _ p =>
    match routes.link p.dstIPAnno with
    | some a => [w.send .node (.agent a 0) p]
    | none => []
  | _ => []

def receive (w : Wires ι) (ctx : WireContext) (bytes : List UInt8) :
    Place ι → Except Exception (Wires ι × List Handoff)
  | .node =>
    match w.MN.input ctx.host bytes with
    | .error e => .error e
    | .ok (MN, out) =>
      .ok ({ w with MN := MN, frames := w.frames ++ out.flatMap (w.fromNode routes) }, out)
  | .agent .home link =>
    match w.HA.input ctx.clock link bytes with
    | .error e => .error e
    | .ok (HA, out) =>
      .ok ({ w with HA := HA, frames := w.frames ++ out.flatMap (w.fromAgent routes .home) }, out)
  | .agent (.foreign i) link =>
    match (w.FA i).input ctx.clock ctx.ttl link bytes with
    | .error e => .error e
    | .ok (FA, out) =>
      .ok ({ w with
        FA := Function.update w.FA i FA
        frames := w.frames ++ out.flatMap (w.fromAgent routes (.foreign i)) }, out)

def deliver (w : Wires ι) (ctx : WireContext) (k : ℕ) :
    Except Exception (Wires ι × List Handoff) :=
  match w.frames[k]? with
  | none => .ok (w, [])
  | some (place, bytes) => { w with frames := w.frames.eraseIdx k }.receive routes ctx bytes place

def advertise (w : Wires ι) : Agent ι → Wires ι × List Handoff
  | .home =>
    let (mipadvertiser, packets) := w.HA.mipadvertiser.runTimer
    let out := packets.map (Handoff.arpq 0)
    ({ w with
      HA := { w.HA with mipadvertiser := mipadvertiser }
      frames := w.frames ++ out.flatMap (w.fromAgent routes .home) }, out)
  | .foreign i =>
    let (mipadvertiser, packets) := (w.FA i).mipadvertiser.runTimer
    let out := packets.map (Handoff.arpq 0)
    ({ w with
      FA := Function.update w.FA i { w.FA i with mipadvertiser := mipadvertiser }
      frames := w.frames ++ out.flatMap (w.fromAgent routes (.foreign i)) }, out)

def solicit (w : Wires ι) (agents : List (Agent ι)) : Wires ι × List Handoff :=
  let p := MobileIPSoliciter.sendSolicitation w.MN.host.MN.homeAddress .broadcast
  ({ w with frames := w.frames ++ agents.map fun a => w.send .node (.agent a 0) p }, [.arpq 0 p])

end Wires

inductive WireEvent (ι : Type) where
  | deliver (ctx : WireContext) (k : ℕ)
  | lose (k : ℕ)
  | tickMN (ctx : ℕ → SendContext)
  | tickFA (i : ι) (clock : ℕ → Clock)
  | tickHA
  | advertise (a : Agent ι)
  | solicit (agents : List (Agent ι))
  | lifetimeExpired
  | enableFastMoving (value : Bool)

def Wires.step {ι : Type} [DecidableEq ι] (routes : Routes ι) (w : Wires ι) :
    WireEvent ι → Except Exception (Wires ι × List Handoff)
  | .deliver ctx k => w.deliver routes ctx k
  | .lose k => .ok ({ w with frames := w.frames.eraseIdx k }, [])
  | .tickMN ctx =>
    let (mn, out) := w.MN.host.MN.runTimer ctx
    let out := out.map Emission.handoff
    .ok ({ w with
      MN := { w.MN with host := { w.MN.host with MN := mn } }
      frames := w.frames ++ out.flatMap (w.fromNode routes) }, out)
  | .tickFA i clock =>
    let (mipagent, out) := (w.FA i).mipagent.runTimer clock
    let out := out.map Emission.handoff
    .ok ({ w with
      FA := Function.update w.FA i { w.FA i with mipagent := mipagent }
      frames := w.frames ++ out.flatMap (w.fromAgent routes (.foreign i)) }, out)
  | .tickHA => .ok ({ w with HA := { w.HA with mipagent := w.HA.mipagent.runTimer } }, [])
  | .advertise a => .ok (w.advertise routes a)
  | .solicit agents => .ok (w.solicit agents)
  | .lifetimeExpired =>
    .ok ({ w with MN := { w.MN with host := w.MN.host.lifetimeExpired } }, [])
  | .enableFastMoving value =>
    .ok ({ w with MN := { w.MN with host := { w.MN.host with
      soliciter := { w.MN.host.soliciter with enableFastMoving := value } } } }, [])

namespace Definitions

/-- The address of a device, by its last byte. -/
def device (n : UInt8) : EthernetAddress := ⟨#v[2, 0, 0, 0, 0, n]⟩

def homeRouter : HomeRouter where
  mipagent := homeAgent
  mipadvertiser :=
    { isHomeAgent := true
      linkAddress := homeAgentPrivateAddress
      careOfAddress := homeAgentPublicAddress }
  privateEther := device 1
  publicEther := device 2

def foreignRouter : ForeignRouter where
  mipagent := foreignAgent
  mipadvertiser :=
    { isForeignAgent := true
      linkAddress := foreignAgentPrivateAddress
      careOfAddress := foreignAgentPublicAddress }
  privateEther := device 5
  publicEther := device 4

def otherRouter : ForeignRouter where
  mipagent := otherAgent
  mipadvertiser :=
    { isForeignAgent := true
      linkAddress := otherAgentPrivateAddress
      careOfAddress := otherAgentPublicAddress }
  privateEther := device 6
  publicEther := device 7

def wires : Wires Bool where
  MN := { host := mobileHost, ether := device 0 }
  FA i := if i then otherRouter else foreignRouter
  HA := homeRouter

end Definitions

end MobileIP
