import MobileIP.Proofs.Deliveries

/-! The stages of one exchange on the wires, from the last of its messages back to the first that the
foreign agent receives. -/

namespace MobileIP

namespace Wires

variable {ι : Type} [DecidableEq ι] {routes : Routes ι} {net : Network ι} {i : ι}

end Wires

end MobileIP
