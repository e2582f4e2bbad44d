import MobileIP.Spec.Node

/-! `MobileIPSoliciter` with the `MobileIPNode` it drives. Times are in milliseconds. -/

namespace MobileIP

structure MobileIPSoliciter where
  connected : Bool := false
  enableFastMoving : Bool := false
  agentMAC : EthernetAddress := .zero
  agentAddress : IPAddress := .zero
  firstConnection : Bool := true
  /-- when `lifetimeTimer` fires, if it is scheduled -/
  lifetimeTimer : Option ℕ := none
  advertisementSequenceNumber : UInt32 := 0
deriving DecidableEq, Repr

structure MobileHost where
  soliciter : MobileIPSoliciter := {}
  MN : MobileIPNode
deriving DecidableEq, Repr

/-- The values the stack holds for the fields of a `routerAdvertisement` that has not been
assigned; its addresses are constructed as 0.0.0.0. -/
structure UnsetAdvertisement where
  lifetime : UInt32
  code : UInt32
  sequenceNumber : UInt32
  registrationLifetime : UInt32
  homeAgent : Bool
  foreignAgent : Bool
deriving DecidableEq, Repr

def UnsetAdvertisement.adv (u : UnsetAdvertisement) : RouterAdvertisement :=
  { lifetime := u.lifetime
    code := u.code
    sequenceNumber := u.sequenceNumber
    registrationLifetime := u.registrationLifetime
    homeAgent := u.homeAgent
    foreignAgent := u.foreignAgent }

namespace MobileIPSoliciter

def raiseLifetime (s : MobileIPSoliciter) (now : ℕ) (seconds : UInt32) : MobileIPSoliciter :=
  { s with lifetimeTimer := some (now + 1000 * seconds.toNat) }

def disconnect (s : MobileIPSoliciter) : MobileIPSoliciter :=
  { s with
    connected := false
    agentAddress := .zero
    advertisementSequenceNumber := 0 }

end MobileIPSoliciter

namespace MobileHost

def connect (h : MobileHost) (now : ℕ) (ctx : SendContext) (advertisement : RouterAdvertisement)
    (ether : EtherHeader) (requestRegistration : Bool) : MobileHost × List Emission :=
  let s := { h.soliciter with agentAddress := advertisement.IP.source, connected := true }
  let s := s.raiseLifetime now advertisement.lifetime
  let s := { s with
    advertisementSequenceNumber := advertisement.sequenceNumber
    agentMAC := ether.source }
  if requestRegistration then
    let (mn, out) := h.MN.reregister ctx advertisement.IP.source advertisement.careOfAddress
      advertisement.registrationLifetime
    (⟨s, mn⟩, out)
  else (⟨s, h.MN⟩, [])

/-- The five-way branch of `simple_action`. -/
def processAdvertisement (h : MobileHost) (now : ℕ) (ctx : SendContext) (ether : EtherHeader)
    (adv : RouterAdvertisement) : MobileHost × List Emission :=
  let s := h.soliciter
  if adv.IP.source = h.MN.homeAgentPrivateAddress then
    if s.connected = true ∧ s.agentAddress = adv.IP.source then
      let s := { s with advertisementSequenceNumber := s.advertisementSequenceNumber + 1 }
      ({ h with soliciter := s.raiseLifetime now adv.lifetime }, [])
    else if s.firstConnection = true then
      let s := { s with firstConnection := false }
      { h with soliciter := s.disconnect }.connect now ctx adv ether false
    else
      { h with soliciter := s.disconnect }.connect now ctx adv ether true
  else if s.connected = false then
    h.connect now ctx adv ether true
  else if s.agentAddress = adv.IP.source then
    if adv.sequenceNumber - 1 ≠ s.advertisementSequenceNumber ∧ adv.sequenceNumber < 256 then
      -- agent resetted itself
      let (mn, out) := h.MN.reregister ctx adv.IP.source adv.careOfAddress adv.registrationLifetime
      (⟨{ s with advertisementSequenceNumber := adv.sequenceNumber }, mn⟩, out)
    else
      let s := { s with advertisementSequenceNumber := s.advertisementSequenceNumber + 1 }
      ({ h with soliciter := s.raiseLifetime now adv.lifetime }, [])
  else if s.enableFastMoving = true then
    { h with soliciter := s.disconnect }.connect now ctx adv ether true
  else (h, [])

/-- The exceptions are caught, and control goes on with the advertisement as it then is. -/
def simpleAction (h : MobileHost) (now : ℕ) (ctx : SendContext) (unset : UnsetAdvertisement)
    (p : Packet) : Except Exception (MobileHost × List Emission) :=
  if getPacketType p ≠ .advertisement then .ok (h, [])
  else
    let (ether, p) := processEtherHeader p true
    match (processRouterAdvertisementMessage p).1 with
    | .error (.zeroChecksum _) => .ok (h.processAdvertisement now ctx ether unset.adv)
    | .error (.invalidChecksum _) => .ok (h.processAdvertisement now ctx ether unset.adv)
    | .error e => .error e
    | .ok adv => .ok (h.processAdvertisement now ctx ether adv)

/-- `run_timer` for the lifetime timer. -/
def lifetimeExpired (h : MobileHost) : MobileHost :=
  { h with soliciter := { h.soliciter with lifetimeTimer := none }.disconnect }

end MobileHost

/-- What can happen to a mobile host. The node is reregistered by the soliciter only. -/
inductive HostEvent where
  | simpleAction (now : ℕ) (ctx : SendContext) (unset : UnsetAdvertisement) (p : Packet)
  | lifetimeExpired
  | enableFastMoving (value : Bool)
  | push (ctx : SendContext) (p : Packet)
  | runTimer (ctx : ℕ → SendContext)
  | requestTimeout (value : UInt32)

def MobileHost.step (h : MobileHost) : HostEvent → Except Exception (MobileHost × List Emission)
  | .simpleAction now ctx unset p => h.simpleAction now ctx unset p
  | .lifetimeExpired => .ok (h.lifetimeExpired, [])
  | .enableFastMoving value =>
    .ok ({ h with soliciter := { h.soliciter with enableFastMoving := value } }, [])
  | .push ctx p =>
    match h.MN.push ctx p with
    | .error e => .error e
    | .ok (mn, out) => .ok ({ h with MN := mn }, out)
  | .runTimer ctx =>
    let (mn, out) := h.MN.runTimer ctx
    .ok ({ h with MN := mn }, out)
  | .requestTimeout value => .ok ({ h with MN := { h.MN with requestTimeout := value } }, [])

end MobileIP
