import MobileIP.Spec.Builders
import MobileIP.Spec.Lists
import MobileIP.Spec.Packet

/-! `MobileIPForeignAgent`. Input and output 0 are the private network, 1 the public one. -/

namespace MobileIP

structure MobileIPForeignAgent where
  publicAddress : IPAddress
  privateAddress : IPAddress
  /-- `configure` sets it to the public address -/
  careOfAddress : IPAddress := publicAddress
  maxPendingRegistrations : UInt32 := 5
  maxAcceptedLifetime : UInt32 := 1800
  sourcePort : UInt32 := 3581
  requestTimeout : UInt32 := 7
  requests : RequestList := []
  visitors : VisitorList := []
deriving DecidableEq, Repr

namespace MobileIPForeignAgent

/-- `sendReply(registrationRequest, code, lifetime)`. -/
def sendReply (fa : MobileIPForeignAgent) (clock : Clock) (registration : RegistrationRequest)
    (code : UInt8) (lifetime : UInt32) : List Emission :=
  let destination := registration.IP.source
  let source :=
    if destination = .broadcast then fa.privateAddress else registration.IP.destination
  let destination := if registration.home = .zero then .broadcast else destination
  let packet := buildRegistrationReplyPacket clock lifetime code registration.home
    registration.homeAgent registration.identification
  [⟨0, .reply (UDPIPfy packet source 434 destination registration.UDP.sourcePort 1)⟩]

/-- `sendReply(registrationReply, destination, destinationPort)`: passes on a reply of the home
agent. -/
def sendReplyFromHA (fa : MobileIPForeignAgent) (clock : Clock) (registration : RegistrationReply)
    (destination : IPAddress) (destinationPort : UInt32) : List Emission :=
  let source := fa.privateAddress
  let destination := if registration.home = .zero then .broadcast else destination
  let packet := buildRegistrationReplyPacket clock registration.lifetime registration.code.toUInt8
    registration.home registration.homeAgent registration.identification
  [⟨0, .reply (UDPIPfy packet source 434 destination destinationPort 1)⟩]

/-- Replies 78 to each of the requests; the `i`-th builder call reads the clock `clock i`. -/
def sendRequestTimedOutReply (fa : MobileIPForeignAgent) (clock : ℕ → Clock) :
    List RequestListItem → List Emission
  | [] => []
  | request :: requests =>
    fa.sendReply (clock 0) request.rr 78 request.rr.lifetime ++
      fa.sendRequestTimedOutReply (fun i => clock (i + 1)) requests

/-- `checkRegistrationValidity` of a request: the reply sent when it fails, else nothing. -/
def checkRequestValidity (fa : MobileIPForeignAgent) (clock : Clock)
    (registration : RegistrationRequest) : Bool × List Emission :=
  if registration.UDP.destinationPort ≠ 434 then (false, [])
  else if registration.r ∨ registration.x then
    (false, fa.sendReply clock registration 70 registration.lifetime)
  else if registration.careOf ≠ fa.careOfAddress then
    (false, fa.sendReply clock registration 77 registration.lifetime)
  else if registration.M ∨ registration.G then
    (false, fa.sendReply clock registration 72 registration.lifetime)
  else if RequestList.size fa.requests ≥ fa.maxPendingRegistrations then
    (false, fa.sendReply clock registration 66 registration.lifetime)
  else if registration.lifetime > fa.maxAcceptedLifetime then
    (false, fa.sendReply clock registration 69 fa.maxAcceptedLifetime)
  else if registration.D ∨ registration.T then
    (false, fa.sendReply clock registration 64 registration.lifetime)
  else (true, [])

/-- `checkRegistrationValidity` of a reply against the pending request it answers. -/
def checkReplyValidity (fa : MobileIPForeignAgent) (registration : RegistrationReply)
    (request : RequestListItem) : Bool :=
  if registration.home ≠ request.rr.home then false
  else if registration.UDP.destinationPort ≠ fa.sourcePort then false
  else true

/-- `ttl` is the value the stack holds for the field that is left unset here and never read. -/
def relayRequest (fa : MobileIPForeignAgent) (clock : Clock) (ttl : UInt32)
    (registration : RegistrationRequest) : MobileIPForeignAgent × List Emission :=
  match fa.checkRequestValidity clock registration with
  | (false, out) => (fa, out)
  | (true, _) =>
    let request : RequestListItem :=
      { destination := registration.IP.destination
        careOfAddress := fa.careOfAddress
        requestedLifetime := registration.lifetime
        remainingLifetime := registration.lifetime
        identification := registration.identification
        rr := registration
        ttl := ttl }
    let packet := buildRegistrationRequestPacket clock registration.lifetime registration.home
      registration.homeAgent fa.careOfAddress registration.identification
    ({ fa with requests := RequestList.add request fa.requests },
      [⟨1, .request (UDPIPfy packet fa.careOfAddress fa.sourcePort registration.homeAgent 434 16)⟩])

/-- The first half of the update in `relayReply`, made when the home agent accepted. -/
def acceptVisitor (fa : MobileIPForeignAgent) (reply : RegistrationReply)
    (request : RequestListItem) : VisitorList :=
  let remainingLifetime := min reply.lifetime fa.maxAcceptedLifetime
  if VisitorList.has reply.home reply.homeAgent fa.visitors then
    if reply.lifetime = 0 then VisitorList.remove reply.home reply.homeAgent fa.visitors
    else
      VisitorList.setVisitorRequestedLifetime reply.home reply.homeAgent remainingLifetime
        fa.visitors
  else
    VisitorList.add
      { MNhome := reply.home
        MNhomeAgent := reply.homeAgent
        UDPSourcePort := request.rr.UDP.sourcePort
        requestedLifetime := remainingLifetime
        remainingLifetime := remainingLifetime } fa.visitors

/-- The visitor list after both halves of the update in `relayReply`. -/
def updateVisitors (fa : MobileIPForeignAgent) (reply : RegistrationReply)
    (request : RequestListItem) : VisitorList :=
  let visitors :=
    if reply.code = 0 ∨ reply.code = 1 then fa.acceptVisitor reply request else fa.visitors
  if reply.lifetime ≠ 0 then
    if reply.code = 0 ∨ reply.code = 1 then
      VisitorList.resetVisitorRemainingLifetime reply.home reply.homeAgent visitors
    else VisitorList.remove reply.home reply.homeAgent visitors
  else visitors

/-- The request is taken out of the list before the reply is checked against it. -/
def relayReply (fa : MobileIPForeignAgent) (clock : Clock) (reply : RegistrationReply) :
    MobileIPForeignAgent × List Emission :=
  match RequestList.remove reply.identification fa.requests with
  | .error _ => (fa, [])
  | .ok (request, requests) =>
    let fa := { fa with requests := requests }
    if fa.checkReplyValidity reply request = false then (fa, [])
    else
      ({ fa with visitors := fa.updateVisitors reply request },
        fa.sendReplyFromHA clock reply reply.home request.rr.UDP.sourcePort)

def push (fa : MobileIPForeignAgent) (clock : Clock) (ttl : UInt32) (port : ℕ) (p : Packet) :
    Except Exception (MobileIPForeignAgent × List Emission) :=
  if port = 0 ∧ getPacketType p = .registration then
    match (processRegistrationRequestPacket p).1 with
    | .error (.zeroChecksum _) => .ok (fa, [])
    | .error (.invalidChecksum _) => .ok (fa, [])
    | .error e => .error e
    | .ok registration => .ok (fa.relayRequest clock ttl registration)
  else if port = 1 ∧ getPacketType p = .reply then
    match (processRegistrationReplyPacket p).1 with
    | .error (.zeroChecksum _) => .ok (fa, [])
    | .error (.invalidChecksum _) => .ok (fa, [])
    | .error e => .error e
    | .ok reply => .ok (fa.relayReply clock reply)
  else .ok (fa, [])

def runTimer (fa : MobileIPForeignAgent) (clock : ℕ → Clock) :
    MobileIPForeignAgent × List Emission :=
  let requests := RequestList.decreaseLifetime fa.requests
  let (timedOut, requests) := RequestList.removeTimedOutRequests fa.requestTimeout requests
  ({ fa with requests := requests, visitors := VisitorList.decreaseLifetime fa.visitors },
    fa.sendRequestTimedOutReply clock timedOut)

end MobileIPForeignAgent

/-- What can happen to a foreign agent: a packet on an input, its timer, a write of a handler. -/
inductive FAEvent where
  | push (clock : Clock) (ttl : UInt32) (port : ℕ) (p : Packet)
  | runTimer (clock : ℕ → Clock)
  | maxLifetime (value : UInt32)
  | requestTimeout (value : UInt32)
  | maxPendingRegistrations (value : UInt32)

def MobileIPForeignAgent.step (fa : MobileIPForeignAgent) :
    FAEvent → Except Exception (MobileIPForeignAgent × List Emission)
  | .push clock ttl port p => fa.push clock ttl port p
  | .runTimer clock => .ok (fa.runTimer clock)
  | .maxLifetime value => .ok ({ fa with maxAcceptedLifetime := value }, [])
  | .requestTimeout value => .ok ({ fa with requestTimeout := value }, [])
  | .maxPendingRegistrations value => .ok ({ fa with maxPendingRegistrations := value }, [])

end MobileIP
