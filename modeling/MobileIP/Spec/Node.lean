import MobileIP.Spec.Builders
import MobileIP.Spec.Lists
import MobileIP.Spec.Packet

/-! `MobileIPNode`. -/

namespace MobileIP

structure MobileIPNode where
  homeAddress : IPAddress
  homeAgentPrivateAddress : IPAddress
  homeAgentPublicAddress : IPAddress
  sourcePort : UInt32 := 5241
  requestTimeout : UInt32 := 10
  connection : AgentConnection := {}
  requests : RequestList := []
deriving DecidableEq, Repr

/-- What one call of `sendRequest` finds outside the element: its own reading of the steady clock,
the readings of the builder it calls, and the values the stack holds for the two fields of the
pending item that it leaves unset. -/
structure SendContext where
  identification : UInt32
  clock : Clock
  remainingLifetime : UInt32
  rr : RegistrationRequest
deriving DecidableEq, Repr

/-- C's `abs` on an `unsigned int`: the argument is converted to `int`. -/
def abs (x : UInt32) : UInt32 := if x < 2147483648 then x else 0 - x

namespace MobileIPNode

def sendRequest (mn : MobileIPNode) (ctx : SendContext) (destination careOfAddress : IPAddress)
    (lifetime ttl : UInt32) : MobileIPNode × List Emission :=
  let packet := buildRegistrationRequestPacket ctx.clock lifetime mn.homeAddress
    mn.homeAgentPublicAddress careOfAddress ctx.identification
  let packet := UDPIPfy packet mn.homeAddress mn.sourcePort destination 434 ttl.toUInt8
  let r : RequestListItem :=
    { destination := destination
      careOfAddress := careOfAddress
      requestedLifetime := lifetime
      identification := ctx.identification
      ttl := ttl
      remainingLifetime := ctx.remainingLifetime
      rr := ctx.rr }
  ({ mn with requests := RequestList.add r mn.requests }, [⟨0, .request packet⟩])

/-- `sendRequest` with its default `ttl` of 1. -/
def registerFA (mn : MobileIPNode) (ctx : SendContext) (FAAddress careOfAddress : IPAddress)
    (lifetime : UInt32) : MobileIPNode × List Emission :=
  mn.sendRequest ctx FAAddress careOfAddress lifetime 1

/-- `deregister(address)`: deregisters one care-of address. -/
def deregister (mn : MobileIPNode) (ctx : SendContext) (address : IPAddress) :
    MobileIPNode × List Emission :=
  mn.sendRequest ctx mn.homeAgentPrivateAddress address 0 1

def reregister (mn : MobileIPNode) (ctx : SendContext) (address careOfAddress : IPAddress)
    (lifetime : UInt32) : MobileIPNode × List Emission :=
  let (mn, out) :=
    if mn.homeAgentPrivateAddress = address then mn.deregister ctx mn.connection.careOfAddress
    else mn.registerFA ctx address careOfAddress lifetime
  ({ mn with
      connection :=
        { mn.connection with
          connected := false
          agentAddress := address
          careOfAddress := careOfAddress
          lifetime := lifetime
          remainingLifetime := lifetime } }, out)

/-- Only the identification of the last request sent is accepted. -/
def checkReplyValidity (mn : MobileIPNode) (reply : RegistrationReply) : Except Exception Bool :=
  match RequestList.getLastRequest mn.requests with
  | .error e => .error e
  | .ok last =>
    if reply.identification ≠ last.identification then .ok false
    else if reply.UDP.destinationPort ≠ mn.sourcePort then .ok false
    else .ok true

/-- The update of the connection by an accepting reply; `connected` is only compared there. -/
def accept (mn : MobileIPNode) (reply : RegistrationReply) (request : RequestListItem) :
    AgentConnection :=
  let decreaseLifetime := abs (reply.lifetime - request.requestedLifetime)
  { mn.connection with
    remainingLifetime := request.requestedLifetime - decreaseLifetime
    isHome := decide (reply.IP.source = mn.homeAgentPrivateAddress) }

/-- The codes 64, 66, 70, 72, 77, 78, 128 and 134 only print a message. -/
def processReply (mn : MobileIPNode) (ctx : SendContext) (reply : RegistrationReply) :
    MobileIPNode × List Emission :=
  match RequestList.remove reply.identification mn.requests with
  | .error _ => (mn, [])
  | .ok (request, requests) =>
    let mn := { mn with requests := requests }
    if reply.code = 0 ∨ reply.code = 1 then
      ({ mn with connection := mn.accept reply request }, [])
    else if reply.code = 69 then
      let mn := { mn with connection := { mn.connection with lifetime := reply.lifetime } }
      mn.registerFA ctx reply.IP.source request.careOfAddress reply.lifetime
    else if reply.code = 136 then
      let mn := { mn with homeAgentPublicAddress := reply.homeAgent }
      if mn.connection.isHome then
        mn.registerFA ctx reply.IP.source request.careOfAddress reply.lifetime
      else (mn, [])
    else (mn, [])

/-- The part of `push` that follows the decoding of the reply. -/
def receiveReply (mn : MobileIPNode) (ctx : SendContext) (reply : RegistrationReply) :
    Except Exception (MobileIPNode × List Emission) :=
  match mn.checkReplyValidity reply with
  | .error e => .error e
  | .ok true => .ok (mn.processReply ctx reply)
  | .ok false => .ok (mn, [])

/-- Only the checksum exception is caught here, not the one for a zero checksum. -/
def push (mn : MobileIPNode) (ctx : SendContext) (p : Packet) :
    Except Exception (MobileIPNode × List Emission) :=
  if getPacketType p ≠ .reply then .ok (mn, [])
  else
    match (processRegistrationReplyPacket p).1 with
    | .error (.invalidChecksum _) => .ok (mn, [])
    | .error e => .error e
    | .ok reply => mn.receiveReply ctx reply

/-- Sends the timed out requests once more; the `i`-th call of `sendRequest` is made in `ctx i`. -/
def resendRequests (mn : MobileIPNode) (ctx : ℕ → SendContext) :
    List RequestListItem → MobileIPNode × List Emission
  | [] => (mn, [])
  | request :: timedOut =>
    let (mn, out) := mn.sendRequest (ctx 0) request.destination request.careOfAddress
      request.requestedLifetime request.ttl
    let (mn, out') := mn.resendRequests (fun i => ctx (i + 1)) timedOut
    (mn, out ++ out')

/-- The last part of `run_timer`. The comparison with half the lifetime is exact in the `double`s of
the source, here in natural numbers. -/
def renewConnection (mn : MobileIPNode) (ctx : SendContext) : MobileIPNode × List Emission :=
  if mn.connection.lifetime ≠ 65535 ∧ mn.connection.remainingLifetime > 0 then
    let mn := { mn with
      connection := { mn.connection with
        remainingLifetime := mn.connection.remainingLifetime - 1 } }
    if 2 * mn.connection.remainingLifetime.toNat ≤ mn.connection.lifetime.toNat ∧
        mn.connection.isHome = false ∧
        RequestList.has mn.connection.agentAddress mn.connection.careOfAddress mn.requests
          = false then
      mn.registerFA ctx mn.connection.agentAddress mn.connection.careOfAddress
        mn.connection.lifetime
    else (mn, [])
  else (mn, [])

def runTimer (mn : MobileIPNode) (ctx : ℕ → SendContext) : MobileIPNode × List Emission :=
  let requests := RequestList.decreaseLifetime mn.requests
  let (timedOut, requests) := RequestList.removeTimedOutRequests mn.requestTimeout requests
  let (mn, out) := { mn with requests := requests }.resendRequests ctx timedOut
  let (mn, out') := mn.renewConnection (ctx timedOut.length)
  (mn, out ++ out')

end MobileIPNode

/-- What can happen to a mobile node: a call of `reregister` by the soliciter, a reply, its timer,
a write of `request_timeout`. -/
inductive MNEvent where
  | reregister (ctx : SendContext) (address careOfAddress : IPAddress) (lifetime : UInt32)
  | push (ctx : SendContext) (p : Packet)
  | runTimer (ctx : ℕ → SendContext)
  | requestTimeout (value : UInt32)

def MobileIPNode.step (mn : MobileIPNode) :
    MNEvent → Except Exception (MobileIPNode × List Emission)
  | .reregister ctx address careOfAddress lifetime =>
    .ok (mn.reregister ctx address careOfAddress lifetime)
  | .push ctx p => mn.push ctx p
  | .runTimer ctx => .ok (mn.runTimer ctx)
  | .requestTimeout value => .ok ({ mn with requestTimeout := value }, [])

end MobileIP
