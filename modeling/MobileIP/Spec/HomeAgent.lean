import MobileIP.Spec.Builders
import MobileIP.Spec.Lists
import MobileIP.Spec.Packet

/-! `MobileIPHomeAgent`. Input and output 0 are the private network, 1 the public one. -/

namespace MobileIP

structure MobileIPHomeAgent where
  publicAddress : IPAddress
  privateAddress : IPAddress
  maxAcceptedLifetime : UInt32 := 1800
  mobilityBindings : MobilityBindingList := []
deriving DecidableEq, Repr

namespace MobileIPHomeAgent

/-- The four-argument `sendReply`. On port 1 the source keeps the broadcast address: the statement
there is a comparison, not an assignment. -/
def sendReply (ha : MobileIPHomeAgent) (clock : Clock) (registration : RegistrationRequest)
    (code : UInt8) (port : ℕ) (lifetime : UInt32) : List Emission :=
  let source :=
    if registration.IP.destination = .broadcast then
      if port = 0 then ha.privateAddress else registration.IP.destination
    else registration.IP.destination
  let destination := registration.IP.source
  -- the node is on the private network when it deregisters
  let port := if lifetime = 0 then 0 else port
  let packet := buildRegistrationReplyPacket clock lifetime code registration.home
    registration.homeAgent registration.identification
  [⟨port, .reply (UDPIPfy packet source 434 destination registration.UDP.sourcePort 1)⟩]

/-- Returns whether the request may go on, and the reply sent if it may not. -/
def checkRegistrationValidity (ha : MobileIPHomeAgent) (clock : Clock)
    (registration : RegistrationRequest) (port : ℕ) : Bool × List Emission :=
  if registration.UDP.destinationPort ≠ 434 then (false, [])
  else if registration.r ∨ registration.x then
    (false, ha.sendReply clock registration 134 port registration.lifetime)
  else if registration.D ∨ registration.M ∨ registration.G ∨ registration.T then
    (false, ha.sendReply clock registration 128 port registration.lifetime)
  else (true, [])

/-- On port 1 `goToAddress` stays unassigned, by a comparison in place of an assignment. -/
def checkForUnkwownHomeAgent (ha : MobileIPHomeAgent) (clock : Clock)
    (registration : RegistrationRequest) (port : ℕ) : Bool × List Emission :=
  let goToAddress := if port = 0 then ha.privateAddress else .zero
  if registration.homeAgent = ha.publicAddress ∧
      (registration.IP.destination = ha.privateAddress ∨
        registration.IP.destination = ha.publicAddress) then (true, [])
  else
    let destination := registration.IP.source
    let source := if destination = .broadcast then goToAddress else registration.IP.destination
    let packet := buildRegistrationReplyPacket clock ha.maxAcceptedLifetime 136 registration.home
      ha.publicAddress registration.identification
    (false, [⟨port, .reply (UDPIPfy packet source 434 destination registration.UDP.sourcePort 1)⟩])

/-- The part of `push` that follows the decoding of the request. -/
def processRegistration (ha : MobileIPHomeAgent) (clock : Clock) (port : ℕ)
    (registration : RegistrationRequest) : MobileIPHomeAgent × List Emission :=
  match ha.checkRegistrationValidity clock registration port with
  | (false, out) => (ha, out)
  | (true, _) =>
    match ha.checkForUnkwownHomeAgent clock registration port with
    | (false, out) => (ha, out)
    | (true, _) =>
      if registration.lifetime = 0 then
        let bindings :=
          if registration.careOf = registration.home then
            MobilityBindingList.removeAll registration.home ha.mobilityBindings
          else
            MobilityBindingList.remove registration.home registration.careOf ha.mobilityBindings
        ({ ha with mobilityBindings := bindings }, ha.sendReply clock registration 0 port 0)
      else
        let lifetime :=
          if registration.lifetime > ha.maxAcceptedLifetime then ha.maxAcceptedLifetime
          else registration.lifetime
        ({ ha with
            mobilityBindings := MobilityBindingList.add registration.home registration.careOf
              lifetime ha.mobilityBindings },
          ha.sendReply clock registration 0 port lifetime)

def push (ha : MobileIPHomeAgent) (clock : Clock) (port : ℕ) (p : Packet) :
    Except Exception (MobileIPHomeAgent × List Emission) :=
  if getPacketType p = .registration then
    match (processRegistrationRequestPacket p).1 with
    | .error (.zeroChecksum _) => .ok (ha, [])
    | .error (.invalidChecksum _) => .ok (ha, [])
    | .error e => .error e
    | .ok registration => .ok (ha.processRegistration clock port registration)
  else .ok (ha, [])

def runTimer (ha : MobileIPHomeAgent) : MobileIPHomeAgent :=
  { ha with mobilityBindings := MobilityBindingList.decreaseLifetime ha.mobilityBindings }

end MobileIPHomeAgent

/-- What can happen to a home agent: a packet on an input, its timer, a write of `max_lifetime`. -/
inductive HAEvent where
  | push (clock : Clock) (port : ℕ) (p : Packet)
  | runTimer
  | maxLifetime (value : UInt32)
deriving DecidableEq

def MobileIPHomeAgent.step (ha : MobileIPHomeAgent) :
    HAEvent → Except Exception (MobileIPHomeAgent × List Emission)
  | .push clock port p => ha.push clock port p
  | .runTimer => .ok (ha.runTimer, [])
  | .maxLifetime value => .ok ({ ha with maxAcceptedLifetime := value }, [])

end MobileIP
