import MobileIP.Spec.Packet

/-! `packets/PacketBuilders.cc` for registration messages. A builder returns the packet structure
it fills in, after the truncations of `htons` and of its `uint8_t` parameters; `UDPIPfy` puts the
addressing around it, and `Datagram.packet` is the packet of bytes it leaves. -/

namespace MobileIP

/-- The clock as one call of a request or reply builder reads it: the subseconds of
`Timestamp::now()` and of `Timestamp::now_steady()`. -/
structure Clock where
  now : UInt32
  steady : UInt32
deriving DecidableEq, Repr

def buildRegistrationRequestPacket (clock : Clock) (lifetime : UInt32)
    (home homeAgent careOf : IPAddress) (identification : UInt32) : RegistrationRequestPacket where
  type := 1
  S := false
  B := false
  D := false
  M := false
  G := false
  r := false
  T := false
  x := false
  lifetime := lifetime.toUInt16
  homeAddress := home
  homeAgent := homeAgent
  careOfAddress := careOf
  identification1 := clock.now
  -- an identification of 0 means "not given"
  identification2 := if identification = 0 then clock.steady else identification

def buildRegistrationReplyPacket (clock : Clock) (lifetime : UInt32) (code : UInt8)
    (home homeAgent : IPAddress) (identification : UInt32) : RegistrationReplyPacket where
  type := 3
  code := code
  lifetime := lifetime.toUInt16
  homeAddress := home
  homeAgent := homeAgent
  identification1 := clock.now
  identification2 := identification

/-- A registration message with the IP and UDP headers that `UDPIPfy` writes in front of it. -/
structure Datagram (α : Type) where
  source : IPAddress
  sourcePort : UInt16
  destination : IPAddress
  destinationPort : UInt16
  ttl : UInt8
  payload : α
deriving DecidableEq, Repr

def UDPIPfy {α : Type} (packet : α) (source : IPAddress) (sourcePort : UInt32)
    (destination : IPAddress) (destinationPort : UInt32) (ttl : UInt8) : Datagram α :=
  ⟨source, sourcePort.toUInt16, destination, destinationPort.toUInt16, ttl, packet⟩

def IPAddress.bytes (a : IPAddress) : List UInt8 := [a.a, a.b, a.c, a.d]

def net16 (w : ℕ) : List UInt8 := [UInt8.ofNat (w / 256), UInt8.ofNat w]

def net32 (w : ℕ) : List UInt8 := net16 (w / 65536) ++ net16 w

def host16 (w : ℕ) : List UInt8 := [UInt8.ofNat w, UInt8.ofNat (w / 256)]

/-- The 20 bytes of an IP header without options, as the builders fill them in. -/
def ipHeaderBytes (tos : UInt8) (len : ℕ) (ttl proto : UInt8) (sum : ℕ)
    (source destination : IPAddress) : List UInt8 :=
  [0x45, tos] ++ net16 len ++ [0, 0, 0, 0, ttl, proto] ++ host16 sum ++ source.bytes ++
    destination.bytes

def udpHeaderBytes (sourcePort destinationPort : UInt16) (len sum : ℕ) : List UInt8 :=
  net16 sourcePort.toNat ++ net16 destinationPort.toNat ++ net16 len ++ host16 sum

/-- The second byte holds the flags, `x` in its lowest bit. -/
def RegistrationRequestPacket.bytes (m : RegistrationRequestPacket) : List UInt8 :=
  let flags := m.x.toNat + 2 * m.T.toNat + 4 * m.r.toNat + 8 * m.G.toNat + 16 * m.M.toNat +
    32 * m.D.toNat + 64 * m.B.toNat + 128 * m.S.toNat
  [m.type, UInt8.ofNat flags] ++ net16 m.lifetime.toNat ++ m.homeAddress.bytes ++
    m.homeAgent.bytes ++ m.careOfAddress.bytes ++ net32 m.identification1.toNat ++
    net32 m.identification2.toNat

def RegistrationReplyPacket.bytes (m : RegistrationReplyPacket) : List UInt8 :=
  [m.type, m.code] ++ net16 m.lifetime.toNat ++ m.homeAddress.bytes ++ m.homeAgent.bytes ++
    net32 m.identification1.toNat ++ net32 m.identification2.toNat

/-- The packet `UDPIPfy` leaves around the bytes of the message, both checksums filled in. -/
def Datagram.packet {α : Type} (bytes : α → List UInt8) (d : Datagram α) : Packet :=
  let payload := bytes d.payload
  let len := payload.length + 8
  let ip := ipHeaderBytes 0 (len + 20) d.ttl 17
    (clickInCksum (ipHeaderBytes 0 (len + 20) d.ttl 17 0 d.source d.destination))
    d.source d.destination
  let csum := clickInCksum (udpHeaderBytes d.sourcePort d.destinationPort len 0 ++ payload)
  let udp := udpHeaderBytes d.sourcePort d.destinationPort len
    (clickInCksumPseudohdrRaw csum d.source d.destination 17 len)
  { buffer := ip ++ udp ++ payload
    data := 0
    networkHeader := some 0
    transportHeader := 20 }

/-- The 28 bytes of a router advertisement with a mobile IP extension. Of its flags `R` is set, and
`F` and `H` as given. -/
def routerAdvertisementBytes (lifetime registrationLifetime : UInt32) (careOfAddress : IPAddress)
    (sequenceNumber : UInt32) (homeAgent foreignAgent : Bool) (sum : ℕ) : List UInt8 :=
  let flags := 16 * foreignAgent.toNat + 32 * homeAgent.toNat + 128
  [9, 0] ++ host16 sum ++ [1, 2] ++ net16 lifetime.toNat ++ careOfAddress.bytes ++ net32 1 ++
    [16, 10] ++ net16 sequenceNumber.toNat ++ net16 registrationLifetime.toNat ++
    [UInt8.ofNat flags, 0] ++ careOfAddress.bytes

def buildRouterAdvertisementMessage (lifetime registrationLifetime : UInt32)
    (careOfAddress : IPAddress) (sequenceNumber : UInt32) (homeAgent foreignAgent : Bool) :
    List UInt8 :=
  let bytes := routerAdvertisementBytes lifetime registrationLifetime careOfAddress sequenceNumber
    homeAgent foreignAgent
  bytes (clickInCksum (bytes 0))

def routerSolicitationBytes (checksum : ℕ) : List UInt8 := [10, 0] ++ host16 checksum ++ [0, 0, 0, 0]

def buildRouterSolicitationMessage : List UInt8 :=
  routerSolicitationBytes (clickInCksum (routerSolicitationBytes 0))

def ICMPIPfy (packet : List UInt8) (source destination : IPAddress) (ttl : UInt8) : Packet :=
  let ip := ipHeaderBytes 0 (packet.length + 20) ttl 1
  { buffer := ip (clickInCksum (ip 0 source destination)) source destination ++ packet
    data := 0
    networkHeader := some 0
    transportHeader := 20 }

/-- The packet inside an Ethernet frame with type 0x0800. -/
def etherEncap (p : Packet) (source destination : EthernetAddress) : Packet :=
  { buffer := destination.eth.toList ++ source.eth.toList ++ [8, 0] ++ p.bytes
    data := 0
    networkHeader := p.networkHeader.map (· - p.data + 14)
    transportHeader := p.transportHeader - p.data + 14 }

/-- The record `processRegistrationRequestPacket` reads from a request that arrives unmodified. -/
def Datagram.request (d : Datagram RegistrationRequestPacket) : RegistrationRequest where
  S := d.payload.S
  B := d.payload.B
  D := d.payload.D
  M := d.payload.M
  G := d.payload.G
  r := d.payload.r
  T := d.payload.T
  x := d.payload.x
  lifetime := d.payload.lifetime.toUInt32
  home := d.payload.homeAddress
  homeAgent := d.payload.homeAgent
  careOf := d.payload.careOfAddress
  UDP := ⟨d.sourcePort.toUInt32, d.destinationPort.toUInt32⟩
  IP := ⟨d.source, d.destination⟩
  identification := d.payload.identification2

/-- The record `processRegistrationReplyPacket` reads from a reply that arrives unmodified. -/
def Datagram.reply (d : Datagram RegistrationReplyPacket) : RegistrationReply where
  code := d.payload.code.toUInt32
  lifetime := d.payload.lifetime.toUInt32
  home := d.payload.homeAddress
  homeAgent := d.payload.homeAgent
  UDP := ⟨d.sourcePort.toUInt32, d.destinationPort.toUInt32⟩
  IP := ⟨d.source, d.destination⟩
  identification := d.payload.identification2

inductive RegistrationMessage where
  | request (d : Datagram RegistrationRequestPacket)
  | reply (d : Datagram RegistrationReplyPacket)
deriving DecidableEq, Repr

/-- A packet pushed on an output of an element. -/
structure Emission where
  output : ℕ
  message : RegistrationMessage
deriving DecidableEq, Repr

end MobileIP
