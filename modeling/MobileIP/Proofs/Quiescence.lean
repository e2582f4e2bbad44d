import MobileIP.Proofs.Settling
import MobileIP.Spec.Definitions

/-! Every exchange of registration messages comes to an end. -/

namespace MobileIP

open Machine

namespace Network

variable {ι : Type} {publicAddress privateAddress : IPAddress} {routes : Routes ι}

variable [DecidableEq ι] {net net' : Network ι} {out : List Emission}

section Examples

open Definitions

def asked : Network Bool :=
  (exec (Network.step Definitions.routes) Definitions.network
    [.reregister (sendAt 1) foreignAgentPrivateAddress foreignAgentPublicAddress 2000]).2

/-- The agent refuses the lifetime, and the node asks again; six messages arrive in all. -/
def answers : Trace (Network Bool) (NetEvent Bool) Emission × Network Bool :=
  exec (Network.step Definitions.routes) asked (List.replicate 6 (.deliver (handleAt 2) 0))

end Examples

end Network

end MobileIP
