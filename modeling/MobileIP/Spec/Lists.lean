import MobileIP.Spec.Structures

/-! The three tables of `lists/`. Each is a `std::vector`, here a list in the same order; a loop
that erases or updates while it iterates is the recursion that walks the list once. -/

namespace MobileIP

structure RequestListItem where
  destination : IPAddress
  careOfAddress : IPAddress
  identification : UInt32
  rr : RegistrationRequest
  ttl : UInt32
  requestedLifetime : UInt32
  remainingLifetime : UInt32
  waitingTime : UInt32 := 0
deriving DecidableEq, Repr

abbrev RequestList := List RequestListItem

namespace RequestList

def remove (identification : UInt32) : RequestList → Except Exception (RequestListItem × RequestList)
  | [] => .error (.requestNotFound "identification")
  | it :: rest =>
    if it.identification = identification then .ok (it, rest)
    else
      match remove identification rest with
      | .error e => .error e
      | .ok (out, rest') => .ok (out, it :: rest')

def decreaseLifetime : RequestList → RequestList
  | [] => []
  | it :: rest =>
    if it.requestedLifetime = 65535 then it :: decreaseLifetime rest
    else if it.requestedLifetime ≠ 0 then
      if it.remainingLifetime ≠ 0 then
        { it with remainingLifetime := it.remainingLifetime - 1 } :: decreaseLifetime rest
      else decreaseLifetime rest
    else it :: decreaseLifetime rest

/-- Returns the requests that have waited longer than `seconds`, and the list without them. -/
def removeTimedOutRequests (seconds : UInt32) : RequestList → List RequestListItem × RequestList
  | [] => ([], [])
  | it :: rest =>
    let it := { it with waitingTime := it.waitingTime + 1 }
    let (requests, rest) := removeTimedOutRequests seconds rest
    if it.waitingTime ≤ seconds then (requests, it :: rest) else (it :: requests, rest)

/-- The `int` size, as the unsigned value it is compared as. -/
def size (requests : RequestList) : UInt32 := UInt32.ofNat requests.length

def add (item : RequestListItem) (requests : RequestList) : RequestList := requests ++ [item]

def has (destination careOfAddress : IPAddress) : RequestList → Bool
  | [] => false
  | it :: rest =>
    if it.destination = destination ∧ it.careOfAddress = careOfAddress then true
    else has destination careOfAddress rest

/-- `requests.back()`, undefined on the empty vector. -/
def getLastRequest (requests : RequestList) : Except Exception RequestListItem :=
  match requests.getLast? with
  | some it => .ok it
  | none => .error (.undefinedBehaviour "requests.back()")

end RequestList

structure VisitorListItem where
  MNhome : IPAddress
  UDPSourcePort : UInt32
  MNhomeAgent : IPAddress
  requestedLifetime : UInt32
  remainingLifetime : UInt32
deriving DecidableEq, Repr

abbrev VisitorList := List VisitorListItem

namespace VisitorList

def remove (homeAddress homeAgentAddress : IPAddress) : VisitorList → VisitorList
  | [] => []
  | it :: rest =>
    if it.MNhome = homeAddress ∧ it.MNhomeAgent = homeAgentAddress then
      remove homeAddress homeAgentAddress rest
    else it :: remove homeAddress homeAgentAddress rest

def add (item : VisitorListItem) (visitors : VisitorList) : VisitorList := visitors ++ [item]

def resetVisitorRemainingLifetime (homeAddress homeAgentAddress : IPAddress) :
    VisitorList → VisitorList
  | [] => []
  | it :: rest =>
    (if it.MNhome = homeAddress ∧ it.MNhomeAgent = homeAgentAddress then
      { it with remainingLifetime := it.requestedLifetime } else it) ::
      resetVisitorRemainingLifetime homeAddress homeAgentAddress rest

def setVisitorRequestedLifetime (homeAddress homeAgentAddress : IPAddress) (lifetime : UInt32) :
    VisitorList → VisitorList
  | [] => []
  | it :: rest =>
    (if it.MNhome = homeAddress ∧ it.MNhomeAgent = homeAgentAddress then
      { it with requestedLifetime := lifetime } else it) ::
      setVisitorRequestedLifetime homeAddress homeAgentAddress lifetime rest

def decreaseLifetime : VisitorList → VisitorList
  | [] => []
  | it :: rest =>
    if it.requestedLifetime = 65535 then it :: decreaseLifetime rest
    else
      -- the counter is decremented before it is tested, so a zero wraps
      let it := { it with remainingLifetime := it.remainingLifetime - 1 }
      if it.remainingLifetime ≠ 0 then it :: decreaseLifetime rest else decreaseLifetime rest

def has (homeAddress homeAgentAddress : IPAddress) : VisitorList → Bool
  | [] => false
  | it :: rest =>
    if it.MNhome = homeAddress ∧ it.MNhomeAgent = homeAgentAddress then true
    else has homeAddress homeAgentAddress rest

end VisitorList

structure MobilityBindingListItem where
  homeAddress : IPAddress
  careOfAddress : IPAddress
  remainingLifetime : UInt32
deriving DecidableEq, Repr

abbrev MobilityBindingList := List MobilityBindingListItem

namespace MobilityBindingList

/-- `remove(homeAddress, careOfAddress)`: removes one binding. -/
def remove (homeAddress careOfAddress : IPAddress) : MobilityBindingList → MobilityBindingList
  | [] => []
  | it :: rest =>
    if it.homeAddress = homeAddress ∧ it.careOfAddress = careOfAddress then
      remove homeAddress careOfAddress rest
    else it :: remove homeAddress careOfAddress rest

/-- `remove(homeAddress)`: removes all bindings. -/
def removeAll (homeAddress : IPAddress) : MobilityBindingList → MobilityBindingList
  | [] => []
  | it :: rest =>
    if it.homeAddress = homeAddress then removeAll homeAddress rest
    else it :: removeAll homeAddress rest

/-- Adds or updates an entry: the first match is updated where it stands. -/
def add (homeAddress careOfAddress : IPAddress) (lifetime : UInt32) :
    MobilityBindingList → MobilityBindingList
  | [] => [⟨homeAddress, careOfAddress, lifetime⟩]
  | it :: rest =>
    if it.homeAddress = homeAddress ∧ it.careOfAddress = careOfAddress then
      { it with remainingLifetime := lifetime } :: rest
    else it :: add homeAddress careOfAddress lifetime rest

def decreaseLifetime : MobilityBindingList → MobilityBindingList
  | [] => []
  | it :: rest =>
    if it.remainingLifetime = 65535 then it :: decreaseLifetime rest
    else
      let it := { it with remainingLifetime := it.remainingLifetime - 1 }
      if it.remainingLifetime ≠ 0 then it :: decreaseLifetime rest else decreaseLifetime rest

def isMobileBinded (homeAddress : IPAddress) : MobilityBindingList → Bool
  | [] => false
  | it :: rest => if it.homeAddress = homeAddress then true else isMobileBinded homeAddress rest

def getCareOfAddress (homeAddress : IPAddress) : MobilityBindingList → IPAddress
  | [] => .zero
  | it :: rest =>
    if it.homeAddress = homeAddress then it.careOfAddress else getCareOfAddress homeAddress rest

end MobilityBindingList

end MobileIP
