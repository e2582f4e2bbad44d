import MobileIP.Spec.Network
import MobileIP.Spec.Soliciter

/-! The hosts of `scripts/library/definitions.click`, and a second foreign agent beside the one the
scripts set up. -/

namespace MobileIP.Definitions

def mobileNodeAddress : IPAddress := ⟨192, 168, 2, 1⟩
def homeAgentPrivateAddress : IPAddress := ⟨192, 168, 2, 254⟩
def homeAgentPublicAddress : IPAddress := ⟨192, 168, 0, 2⟩
def correspondingNodeAddress : IPAddress := ⟨192, 168, 0, 1⟩
def foreignAgentPublicAddress : IPAddress := ⟨192, 168, 0, 3⟩
def foreignAgentPrivateAddress : IPAddress := ⟨192, 168, 3, 254⟩
def otherAgentPublicAddress : IPAddress := ⟨192, 168, 0, 4⟩
def otherAgentPrivateAddress : IPAddress := ⟨192, 168, 4, 254⟩

def homeAgent : MobileIPHomeAgent where
  publicAddress := homeAgentPublicAddress
  privateAddress := homeAgentPrivateAddress

def foreignAgent : MobileIPForeignAgent where
  publicAddress := foreignAgentPublicAddress
  privateAddress := foreignAgentPrivateAddress

def otherAgent : MobileIPForeignAgent where
  publicAddress := otherAgentPublicAddress
  privateAddress := otherAgentPrivateAddress

def mobileNode : MobileIPNode where
  homeAddress := mobileNodeAddress
  homeAgentPrivateAddress := homeAgentPrivateAddress
  homeAgentPublicAddress := homeAgentPublicAddress

def mobileHost : MobileHost where
  MN := mobileNode

def advertisementFrom (linkAddress careOfAddress : IPAddress) (homeAgent : Bool) : Packet :=
  etherEncap (ICMPIPfy (buildRouterAdvertisementMessage 30 1800 careOfAddress 1 homeAgent
    !homeAgent) linkAddress .broadcast 1) .zero .zero

def advertisementRead (linkAddress careOfAddress : IPAddress) (homeAgent : Bool) :
    RouterAdvertisement where
  lifetime := 30
  code := 0
  sequenceNumber := 1
  registrationLifetime := 1800
  homeAgent := homeAgent
  foreignAgent := homeAgent
  careOfAddress := careOfAddress
  IP := ⟨linkAddress, .broadcast⟩

def relayedRequest (careOf : IPAddress) (lifetime identification : UInt32) :
    Datagram RegistrationRequestPacket :=
  UDPIPfy (buildRegistrationRequestPacket ⟨0, 0⟩ lifetime mobileNodeAddress homeAgentPublicAddress
    careOf identification) careOf 3581 homeAgentPublicAddress 434 16

def requestFrom (lifetime identification : UInt32) : Datagram RegistrationRequestPacket :=
  UDPIPfy (buildRegistrationRequestPacket ⟨0, 0⟩ lifetime mobileNodeAddress homeAgentPublicAddress
    foreignAgentPublicAddress identification) mobileNodeAddress 5241 foreignAgentPrivateAddress 434 1

def replyFrom (lifetime identification : UInt32) : Datagram RegistrationReplyPacket :=
  UDPIPfy (buildRegistrationReplyPacket ⟨0, 0⟩ lifetime 0 mobileNodeAddress homeAgentPublicAddress
    identification) homeAgentPublicAddress 434 foreignAgentPublicAddress 3581 1

/-- The context of a call of `sendRequest` that reads the identification from the clock. -/
def sendAt (identification : UInt32) : SendContext where
  identification := identification
  clock := ⟨0, 0⟩
  remainingLifetime := 0
  rr := (requestFrom 0 0).request

def advertisementArrives (now : ℕ) (p : Packet) : HostEvent :=
  .simpleAction now (sendAt 1) ⟨0, 0, 0, 0, false, false⟩ p

def routes : Routes Bool where
  link address :=
    if address = homeAgentPrivateAddress then some .home
    else if address = foreignAgentPrivateAddress then some (.foreign false)
    else if address = otherAgentPrivateAddress then some (.foreign true)
    else none
  backbone address :=
    if address = homeAgentPublicAddress then some .home
    else if address = foreignAgentPublicAddress then some (.foreign false)
    else if address = otherAgentPublicAddress then some (.foreign true)
    else none

def network : Network Bool where
  MN := mobileNode
  FA i := if i then otherAgent else foreignAgent
  HA := homeAgent

def handleAt (identification : UInt32) : NetContext where
  clock := ⟨0, 0⟩
  ttl := 1
  send := sendAt identification

def visit (identification : UInt32) (address careOfAddress : IPAddress) : List (NetEvent Bool) :=
  .reregister (sendAt identification) address careOfAddress 100 ::
    List.replicate 4 (.deliver (handleAt identification) 0)

def comeHome (identification : UInt32) : List (NetEvent Bool) :=
  .reregister (sendAt identification) homeAgentPrivateAddress homeAgentPrivateAddress 100 ::
    List.replicate 2 (.deliver (handleAt identification) 0)

def deregistrationOf (careOf : IPAddress) (identification : UInt32) :
    Datagram RegistrationRequestPacket :=
  UDPIPfy (buildRegistrationRequestPacket ⟨0, 0⟩ 0 mobileNodeAddress homeAgentPublicAddress careOf
    identification) mobileNodeAddress 5241 homeAgentPrivateAddress 434 1

/-- A packet of the corresponding node for the mobile node, with the given identification and
checksum in its header. -/
def dataPacket (identification sum : ℕ) : Packet where
  buffer := [0x45, 0] ++ net16 28 ++ net16 identification ++ [0, 0, 64, 17] ++ host16 sum ++
    correspondingNodeAddress.bytes ++ mobileNodeAddress.bytes ++ List.replicate 8 0
  data := 0
  networkHeader := some 0
  transportHeader := 20

def requestArrives (d : Datagram RegistrationRequestPacket) : FAEvent :=
  .push ⟨0, 0⟩ 0 0 (d.packet RegistrationRequestPacket.bytes)

def relayedArrives (d : Datagram RegistrationRequestPacket) : HAEvent :=
  .push ⟨0, 0⟩ 1 (d.packet RegistrationRequestPacket.bytes)

def replyArrives (d : Datagram RegistrationReplyPacket) : FAEvent :=
  .push ⟨0, 0⟩ 0 1 (d.packet RegistrationReplyPacket.bytes)

end MobileIP.Definitions
