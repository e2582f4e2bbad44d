import MobileIP.Proofs.Routers
import MobileIP.Proofs.Soliciter

/-! What the routers make of a registration message or an advertisement that can be read. -/

namespace MobileIP

section Reading

variable (shost : EthernetAddress) {dhost : EthernetAddress}
  {d : Datagram RegistrationRequestPacket} {d' : Datagram RegistrationReplyPacket}

end Reading

end MobileIP
