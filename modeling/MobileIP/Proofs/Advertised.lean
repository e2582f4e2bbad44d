import MobileIP.Proofs.Agreement
import MobileIP.Proofs.Following
import MobileIP.Proofs.HeardAdvertisements

/-! What the wires do when an agent advertises and nothing else is in flight. -/

namespace MobileIP

namespace Wires

variable {ι : Type} [DecidableEq ι] {routes : Routes ι} {w : Wires ι} {net : Network ι} {i : ι}

def advertiser (w : Wires ι) : Agent ι → MobileIPAdvertiser
  | .home => w.HA.mipadvertiser
  | .foreign i => (w.FA i).mipadvertiser

end Wires

end MobileIP
