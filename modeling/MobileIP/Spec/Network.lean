import MobileIP.Lib.Run
import MobileIP.Spec.ForeignAgent
import MobileIP.Spec.HomeAgent
import MobileIP.Spec.Node

/-! One mobile node, its home agent and any family of foreign agents, joined by the registration
messages in flight between them. Messages arrive unmodified and are handled as decoded records;
none is lost, and any of those in flight may be the next to arrive. -/

namespace MobileIP

inductive Agent (ι : Type) where
  | home
  | foreign (i : ι)
deriving DecidableEq, Repr

/-- Which agent an address leads to: on the link of the mobile node, and on the public network. -/
structure Routes (ι : Type) where
  link : IPAddress → Option (Agent ι)
  backbone : IPAddress → Option (Agent ι)

/-- A registration message on its way to one of the parties. -/
inductive Flight (ι : Type) where
  | requestToHA (port : ℕ) (d : Datagram RegistrationRequestPacket)
  | requestToFA (i : ι) (d : Datagram RegistrationRequestPacket)
  | replyToFA (i : ι) (d : Datagram RegistrationReplyPacket)
  | replyToMN (d : Datagram RegistrationReplyPacket)
deriving DecidableEq, Repr

structure Network (ι : Type) where
  MN : MobileIPNode
  FA : ι → MobileIPForeignAgent
  HA : MobileIPHomeAgent
  flights : List (Flight ι) := []

/-- What the handling of one message finds outside the elements. -/
structure NetContext where
  clock : Clock
  ttl : UInt32
  send : SendContext

namespace Routes

variable {ι : Type} (routes : Routes ι)

def fromMN (e : Emission) : List (Flight ι) :=
  match e.message with
  | .request d =>
    match routes.link d.destination with
    | some .home => [.requestToHA 0 d]
    | some (.foreign i) => [.requestToFA i d]
    | none => []
  | .reply _ => []

/-- Where a packet pushed by a foreign agent goes; foreign agents discard requests that come in
from the public network. -/
def fromFA (e : Emission) : List (Flight ι) :=
  match e.message with
  | .reply d => if e.output = 0 then [.replyToMN d] else []
  | .request d =>
    match routes.backbone d.destination with
    | some .home => if e.output = 1 then [.requestToHA 1 d] else []
    | _ => []

/-- Where a packet pushed by the home agent goes: to its own link, or out to a foreign agent. -/
def fromHA (e : Emission) : List (Flight ι) :=
  match e.message with
  | .reply d =>
    if e.output = 0 then [.replyToMN d]
    else
      match routes.backbone d.destination with
      | some (.foreign i) => [.replyToFA i d]
      | _ => []
  | .request _ => []

end Routes

namespace Network

variable {ι : Type} [DecidableEq ι] (routes : Routes ι)

def receive (net : Network ι) (ctx : NetContext) :
    Flight ι → Except Exception (Network ι × List Emission)
  | .requestToHA port d =>
    let (ha, out) := net.HA.processRegistration ctx.clock port d.request
    .ok ({ net with HA := ha, flights := net.flights ++ out.flatMap routes.fromHA }, out)
  | .requestToFA i d =>
    let (fa, out) := (net.FA i).relayRequest ctx.clock ctx.ttl d.request
    .ok ({ net with
      FA := Function.update net.FA i fa
      flights := net.flights ++ out.flatMap routes.fromFA }, out)
  | .replyToFA i d =>
    let (fa, out) := (net.FA i).relayReply ctx.clock d.reply
    .ok ({ net with
      FA := Function.update net.FA i fa
      flights := net.flights ++ out.flatMap routes.fromFA }, out)
  | .replyToMN d =>
    match net.MN.receiveReply ctx.send d.reply with
    | .error e => .error e
    | .ok (mn, out) =>
      .ok ({ net with MN := mn, flights := net.flights ++ out.flatMap routes.fromMN }, out)

def reregister (net : Network ι) (ctx : SendContext) (address careOfAddress : IPAddress)
    (lifetime : UInt32) : Network ι × List Emission :=
  let (mn, out) := net.MN.reregister ctx address careOfAddress lifetime
  ({ net with MN := mn, flights := net.flights ++ out.flatMap routes.fromMN }, out)

def deliver (net : Network ι) (ctx : NetContext) (k : ℕ) :
    Except Exception (Network ι × List Emission) :=
  match net.flights[k]? with
  | none => .ok (net, [])
  | some flight => { net with flights := net.flights.eraseIdx k }.receive routes ctx flight

/-- Messages arrive in order, the `k`-th of them handled in `ctx k`, until none is in flight or
`fuel` of them have arrived. -/
def settle (ctx : ℕ → NetContext) : ℕ → Network ι → Except Exception (Network ι × List Emission)
  | 0, net => .ok (net, [])
  | fuel + 1, net =>
    if net.flights = [] then .ok (net, [])
    else
      match net.deliver routes (ctx 0) 0 with
      | .error e => .error e
      | .ok (net, out) =>
        match settle (fun k => ctx (k + 1)) fuel net with
        | .error e => .error e
        | .ok (net, out') => .ok (net, out ++ out')

end Network

inductive NetEvent (ι : Type) where
  | reregister (ctx : SendContext) (address careOfAddress : IPAddress) (lifetime : UInt32)
  | deliver (ctx : NetContext) (k : ℕ)
  | tickMN (ctx : ℕ → SendContext)
  | tickFA (i : ι) (clock : ℕ → Clock)
  | tickHA

def Network.step {ι : Type} [DecidableEq ι] (routes : Routes ι) (net : Network ι) :
    NetEvent ι → Except Exception (Network ι × List Emission)
  | .reregister ctx address careOfAddress lifetime =>
    .ok (net.reregister routes ctx address careOfAddress lifetime)
  | .deliver ctx k => net.deliver routes ctx k
  | .tickMN ctx =>
    let (mn, out) := net.MN.runTimer ctx
    .ok ({ net with MN := mn, flights := net.flights ++ out.flatMap routes.fromMN }, out)
  | .tickFA i clock =>
    let (fa, out) := (net.FA i).runTimer clock
    .ok ({ net with
      FA := Function.update net.FA i fa
      flights := net.flights ++ out.flatMap routes.fromFA }, out)
  | .tickHA => .ok ({ net with HA := net.HA.runTimer }, [])

end MobileIP
