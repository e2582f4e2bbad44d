import Mathlib.Data.Vector.Basic

/-! The records of `packets/structures.hh` and `packets/packets.hh`, and the exceptions.
An `unsigned int` is a `UInt32`, so its arithmetic wraps as in the source. -/

namespace MobileIP

/-- The four bytes of an `in_addr`, in the order they have in memory and on the wire. -/
structure IPAddress where
  a : UInt8
  b : UInt8
  c : UInt8
  d : UInt8
deriving DecidableEq, Repr

/-- `IPAddress()`, which is also `IPAddress("0.0.0.0")`. -/
def IPAddress.zero : IPAddress := ⟨0, 0, 0, 0⟩

/-- `IPAddress("255.255.255.255")`. -/
def IPAddress.broadcast : IPAddress := ⟨255, 255, 255, 255⟩

structure EthernetAddress where
  eth : Vector UInt8 6
deriving DecidableEq, Repr

def EthernetAddress.zero : EthernetAddress := ⟨Vector.replicate 6 0⟩

structure UDPHeader where
  sourcePort : UInt32
  destinationPort : UInt32
deriving DecidableEq, Repr

structure IPHeader where
  source : IPAddress := .zero
  destination : IPAddress := .zero
deriving DecidableEq, Repr

structure EtherHeader where
  source : EthernetAddress
  destination : EthernetAddress
deriving DecidableEq, Repr

structure TunnelIP where
  source : IPAddress
  destination : IPAddress
  ttl : UInt8
  originalIP : IPHeader
deriving DecidableEq, Repr

structure RouterAdvertisement where
  lifetime : UInt32
  code : UInt32
  sequenceNumber : UInt32
  registrationLifetime : UInt32
  homeAgent : Bool
  foreignAgent : Bool
  careOfAddress : IPAddress := .zero
  IP : IPHeader := {}
deriving DecidableEq, Repr

structure RouterSolicitation where
  IP : IPHeader := {}
deriving DecidableEq, Repr

structure RegistrationRequest where
  S : Bool
  B : Bool
  D : Bool
  M : Bool
  G : Bool
  r : Bool
  T : Bool
  x : Bool
  lifetime : UInt32
  home : IPAddress
  homeAgent : IPAddress
  careOf : IPAddress
  UDP : UDPHeader
  IP : IPHeader
  identification : UInt32
deriving DecidableEq, Repr

structure RegistrationReply where
  code : UInt32
  lifetime : UInt32
  home : IPAddress
  homeAgent : IPAddress
  UDP : UDPHeader
  IP : IPHeader
  identification : UInt32
deriving DecidableEq, Repr

structure AgentConnection where
  connected : Bool := false
  isHome : Bool := true
  agentAddress : IPAddress := .zero
  careOfAddress : IPAddress := .zero
  /-- lifetime originally requested -/
  lifetime : UInt32 := 0
  remainingLifetime : UInt32 := 0
deriving DecidableEq, Repr

/-- The exceptions of `exceptions/`, with their identifiers. The last constructor is not a C++
exception: it marks an evaluation whose behaviour the language leaves undefined. -/
inductive Exception where
  | zeroChecksum (identifier : String)
  | invalidChecksum (identifier : String)
  | requestNotFound (identifier : String)
  | undefinedBehaviour (identifier : String)
deriving DecidableEq, Repr

/-- `registrationRequestPacket`: the 24 bytes of a request, field by field. -/
structure RegistrationRequestPacket where
  type : UInt8
  x : Bool
  T : Bool
  r : Bool
  G : Bool
  M : Bool
  D : Bool
  B : Bool
  S : Bool
  lifetime : UInt16
  homeAddress : IPAddress
  homeAgent : IPAddress
  careOfAddress : IPAddress
  identification1 : UInt32
  identification2 : UInt32
deriving DecidableEq, Repr

/-- `registrationReplyPacket`: the 20 bytes of a reply, field by field. -/
structure RegistrationReplyPacket where
  type : UInt8
  code : UInt8
  lifetime : UInt16
  homeAddress : IPAddress
  homeAgent : IPAddress
  identification1 : UInt32
  identification2 : UInt32
deriving DecidableEq, Repr

end MobileIP
