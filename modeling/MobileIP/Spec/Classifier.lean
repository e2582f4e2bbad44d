import MobileIP.Spec.Packet

/-! `MobileIPClassifier`: passes through all packets except those of Mobile IP. -/

namespace MobileIP

/-- The `std::map` of packet types to ports, here in the order of insertion. -/
structure MobileIPClassifier where
  mappings : List (PacketType × ℤ) := []
deriving DecidableEq, Repr

namespace MobileIPClassifier

/-- `addMapping`: nothing when it returns false. The map keeps the first port of a type. -/
def addMapping (c : MobileIPClassifier) (type : PacketType) (port : ℤ) :
    Option MobileIPClassifier :=
  -- can't map on port 0
  if port = 0 then none
  -- check if table already has mapping
  else if c.mappings.any (fun it => decide (it.2 = port)) then none
  else if (c.mappings.lookup type).isSome then some c
  else some { c with mappings := c.mappings ++ [(type, port)] }

/-- One of the five tests of `configure`; a port of -1 is one that is not given. -/
def mapUnlessUnset (type : PacketType) (port : ℤ) (c : MobileIPClassifier) :
    Option MobileIPClassifier :=
  if port = -1 then some c else c.addMapping type port

/-- `configure`: the element, unless the configuration is rejected. -/
def configure (registration reply ipinip solicitation advertisement : ℤ) :
    Option MobileIPClassifier :=
  (mapUnlessUnset .registration registration {}).bind fun c =>
    (mapUnlessUnset .reply reply c).bind fun c =>
      (mapUnlessUnset .ipinip ipinip c).bind fun c =>
        (mapUnlessUnset .solicitation solicitation c).bind fun c =>
          mapUnlessUnset .advertisement advertisement c

def push (c : MobileIPClassifier) (p : Packet) : ℤ :=
  match c.mappings.lookup (getPacketType p) with
  | some outputPort => outputPort
  | none => 0

end MobileIPClassifier

end MobileIP
