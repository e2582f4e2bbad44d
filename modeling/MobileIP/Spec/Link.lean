import MobileIP.Spec.Advertiser
import MobileIP.Spec.Soliciter

/-! A foreign agent and a mobile host on its link, with the timers of both. The agent advertises
whenever its timer fires and whenever it is solicited; an advertisement reaches the host after some
delay, or not at all; and the host is disconnected when its own timer fires. Times are in
milliseconds. -/

namespace MobileIP

structure Link where
  advertiser : MobileIPAdvertiser
  /-- when `advertisementTimer` fires -/
  advertisementTimer : ℕ
  host : MobileHost
  /-- when the last advertisement was sent -/
  sent : ℕ := 0
  /-- nothing has reached the host since the last time the timer of the agent fired -/
  missed : Bool := false

/-- What the host finds when an advertisement reaches it, and how late that is. -/
structure Hearing where
  late : ℕ
  ctx : SendContext
  unset : UnsetAdvertisement
  shost : EthernetAddress
  dhost : EthernetAddress

/-- An advertisement that is not heard was lost, or was for another host. -/
inductive LinkEvent where
  | advertise (rand : ℕ) (hearing : Option Hearing)
  | solicit (time : ℕ) (p : Packet) (hearing : Option Hearing)
  | lifetimeExpired
  | enableFastMoving (value : Bool)
  | push (ctx : SendContext) (p : Packet)
  | runTimer (ctx : ℕ → SendContext)
  | requestTimeout (value : UInt32)

namespace Link

def Before (l : Link) (time : ℕ) : Prop :=
  ∀ t ∈ l.host.soliciter.lifetimeTimer, time ≤ t

instance (l : Link) (time : ℕ) : Decidable (l.Before time) :=
  inferInstanceAs (Decidable (∀ t ∈ l.host.soliciter.lifetimeTimer, time ≤ t))

/-- `run_timer` of the advertiser: its timer is set to fire so long after it was to fire this time. -/
def advertise (l : Link) (rand : ℕ) : Except Exception (Link × Packet) :=
  match l.advertiser.reschedule rand with
  | .error e => .error e
  | .ok next =>
    let (advertiser, packet) := l.advertiser.sendAdvertisement .broadcast
    .ok ({ l with
      advertiser := advertiser
      advertisementTimer := l.advertisementTimer + next.toInt.toNat
      sent := l.advertisementTimer }, packet)

def hostStep (l : Link) (e : HostEvent) : Except Exception (Link × List Emission) :=
  match l.host.step e with
  | .error e => .error e
  | .ok (host, out) => .ok ({ l with host := host }, out)

def hear (l : Link) (packet : Packet) (x : Hearing) : Except Exception (Link × List Emission) :=
  { l with missed := false }.hostStep
    (.simpleAction (l.sent + x.late) x.ctx x.unset (etherEncap packet x.shost x.dhost))

/-- An advertisement that is sent at the time is heard within the delay if at all, and while the timer
of the host has not fired. -/
def InTime (delay : ℕ) (l : Link) (time : ℕ) (hearing : Option Hearing) : Prop :=
  (∀ x ∈ hearing, x.late ≤ delay ∧ l.Before (time + x.late)) ∧ l.Before time

instance (delay : ℕ) (l : Link) (time : ℕ) (hearing : Option Hearing) :
    Decidable (InTime delay l time hearing) :=
  inferInstanceAs (Decidable (_ ∧ _))

/-- One step, where no advertisement is later than `delay`. Of two timers the one that is due first
fires, and either if they are due at the same time; an event that cannot happen yet is none. -/
def step (delay : ℕ) (l : Link) : LinkEvent → Except Exception (Link × List Emission)
  | .advertise rand hearing =>
    if InTime delay l l.advertisementTimer hearing then
      match l.advertise rand with
      | .error e => .error e
      | .ok (l, packet) =>
        match hearing with
        | none => .ok ({ l with missed := true }, [])
        | some x => l.hear packet x
    else .ok (l, [])
  | .solicit time p hearing =>
    if (l.sent ≤ time ∧ time ≤ l.advertisementTimer) ∧ InTime delay l time hearing then
      match l.advertiser.simpleAction p with
      | .error e => .error e
      | .ok (_, []) => .ok (l, [])
      | .ok (advertiser, packet :: _) =>
        match hearing with
        | none => .ok ({ l with advertiser := advertiser, sent := time }, [])
        | some x => { l with advertiser := advertiser, sent := time }.hear packet x
    else .ok (l, [])
  | .lifetimeExpired =>
    if ∃ t ∈ l.host.soliciter.lifetimeTimer, t ≤ l.advertisementTimer + delay then
      l.hostStep .lifetimeExpired
    else .ok (l, [])
  | .enableFastMoving value => l.hostStep (.enableFastMoving value)
  | .push ctx p => l.hostStep (.push ctx p)
  | .runTimer ctx => l.hostStep (.runTimer ctx)
  | .requestTimeout value => l.hostStep (.requestTimeout value)

end Link

end MobileIP
