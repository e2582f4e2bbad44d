import MobileIP.Proofs.Agreement
import MobileIP.Proofs.Following

/-! Wires that follow a network come with it to what it settles in. -/

namespace MobileIP

open Machine

namespace Wires

variable {ι : Type} [DecidableEq ι] {routes : Routes ι} {w w' : Wires ι} {net net' net₁ : Network ι}
  {f : Flight ι} {out : List Emission}

end Wires

end MobileIP
