import MobileIP.Proofs.TunnelRouters
import MobileIP.Spec.Wires

/-! Packets on their way through the tunnel, from router to router. -/

namespace MobileIP

section Tunnel

variable {h : IPAddress} {p q r : Packet}

section Crossing

variable {ha : HomeRouter} {fa : ForeignRouter} {ctx : TunnelContext} {n : ℕ} {q₀ : Packet}

end Crossing

section Examples

open Definitions

def boundRouter : HomeRouter :=
  { homeRouter with mipagent := { homeAgent with
    mobilityBindings := [⟨mobileNodeAddress, foreignAgentPublicAddress, 100⟩] } }

end Examples

end Tunnel

end MobileIP
