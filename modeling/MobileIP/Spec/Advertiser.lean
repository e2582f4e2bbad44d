import MobileIP.Spec.Builders

/-! `MobileIPAdvertiser`, and Click's `CheckIPHeader` (`elements/ip/checkipheader.cc`), through
which packets come to the elements. -/

namespace MobileIP

structure MobileIPAdvertiser where
  isHomeAgent : Bool := false
  isForeignAgent : Bool := false
  sequenceNumber : UInt32 := 0
  /-- From RFC 1256 -/
  lifetime : UInt32 := 45
  registrationLifetime : UInt32 := 60
  linkAddress : IPAddress
  /-- Only when FA -/
  careOfAddress : IPAddress := .zero
deriving DecidableEq, Repr

namespace MobileIPAdvertiser

/-- The sequence number 0xffff is followed by 256. -/
def sendAdvertisement (a : MobileIPAdvertiser) (destination : IPAddress) :
    MobileIPAdvertiser × Packet :=
  let packet := buildRouterAdvertisementMessage a.lifetime a.registrationLifetime a.careOfAddress
    a.sequenceNumber a.isHomeAgent a.isForeignAgent
  let sequenceNumber := if a.sequenceNumber = 65535 then 256 else a.sequenceNumber + 1
  ({ a with sequenceNumber := sequenceNumber }, ICMPIPfy packet a.linkAddress destination 1)

/-- Any packet is taken for a solicitation, and answered to its source. -/
def simpleAction (a : MobileIPAdvertiser) (p : Packet) :
    Except Exception (MobileIPAdvertiser × List Packet) :=
  match (processRouterSolicitationMessage p).1 with
  | .error (.zeroChecksum _) => .ok (a, [])
  | .error (.invalidChecksum _) => .ok (a, [])
  | .error e => .error e
  | .ok r =>
    let (a, packet) := a.sendAdvertisement r.IP.source
    .ok (a, [packet])

def runTimer (a : MobileIPAdvertiser) : MobileIPAdvertiser × List Packet :=
  let (a, packet) := a.sendAdvertisement .broadcast
  (a, [packet])

/-- `changeLifetimeHandler`. -/
def changeLifetime (a : MobileIPAdvertiser) (seconds : Int32) : MobileIPAdvertiser :=
  if seconds < 3 then a else { a with lifetime := seconds.toUInt32 }

/-- The milliseconds to the next advertisement, as `resetAdvertisementTimer` and `run_timer` compute
them: `int next = ceil(this->lifetime/3)*1000 - (rand() % 100)`. The division is of integers, and the
rest is exact in `double`, of which the conversion to `int` is defined in the range of `int` only. -/
def next (a : MobileIPAdvertiser) (rand : ℕ) : Except Exception Int32 :=
  let next : ℤ := ↑(a.lifetime.toNat / 3 * 1000) - ↑(rand % 100)
  if next < 2147483648 then .ok (Int32.ofInt next) else .error (.undefinedBehaviour "int next")

def resetAdvertisementTimer (a : MobileIPAdvertiser) (seconds : Int32) (rand : ℕ) :
    MobileIPAdvertiser × Except Exception Int32 :=
  let a := { a with lifetime := seconds.toUInt32 }
  (a, a.next rand)

/-- What `run_timer` reschedules the timer after, when it has sent an advertisement. -/
def reschedule (a : MobileIPAdvertiser) (rand : ℕ) : Except Exception Int32 := a.runTimer.1.next rand

/-- The element as it is when the router is started again with its configuration. -/
def restart (a : MobileIPAdvertiser) : MobileIPAdvertiser where
  isHomeAgent := a.isHomeAgent
  isForeignAgent := a.isForeignAgent
  linkAddress := a.linkAddress
  careOfAddress := a.careOfAddress

end MobileIPAdvertiser

/-- What can happen to an advertiser: its timer, a packet on its input, a write of a handler, a
restart. -/
inductive AdvertiserEvent where
  | runTimer
  | simpleAction (p : Packet)
  | setLifetime (seconds : Int32)
  | setRegistrationLifetime (value : UInt32)
  | restart
deriving DecidableEq, Repr

def MobileIPAdvertiser.step (a : MobileIPAdvertiser) :
    AdvertiserEvent → Except Exception (MobileIPAdvertiser × List Packet)
  | .runTimer => .ok a.runTimer
  | .simpleAction p => a.simpleAction p
  | .setLifetime seconds => .ok (a.changeLifetime seconds, [])
  | .setRegistrationLifetime value => .ok ({ a with registrationLifetime := value }, [])
  | .restart => .ok (a.restart, [])

structure CheckIPHeader where
  badSrc : List IPAddress := []
  goodDst : List IPAddress := []
  offset : ℕ := 0
  checksum : Bool := true
deriving DecidableEq, Repr

def CheckIPHeader.simpleAction (c : CheckIPHeader) (p : Packet) : Option Packet :=
  let ip := p.data + c.offset
  -- the source compares as `int`, where a packet that ends before the offset has a negative length
  let plen := p.length - c.offset
  let hlen := 4 * ((p.u8 ip).toNat % 16)
  let len := ntohs (p.u16 (ip + 2))
  if plen < 20 then none
  else if (p.u8 ip).toNat / 16 ≠ 4 then none
  else if hlen < 20 then none
  else if plen < len ∨ len < hlen then none
  else if c.checksum = true ∧ clickInCksum (p.slice ip hlen) ≠ 0 then none
  else if p.inAddr (ip + 12) ∈ c.badSrc ∧ p.inAddr (ip + 16) ∉ c.goodDst then none
  else
    let p := p.setIPHeader ip hlen
    some (if len < plen then p.take (plen - len) else p)

end MobileIP
