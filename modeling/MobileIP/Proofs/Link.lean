import MobileIP.Proofs.LinkLifetime
import MobileIP.Spec.Link

/-! A host that has heard its agent stays connected to it. The agent advertises three times within
the lifetime that it announces, so that the timer of the host is put off before it is due, also where
one of these advertisements is lost; but while the numbers of the advertisements are below 256, the
one after a lost one is taken for the sign of a restart, and does not put off the timer. -/

namespace MobileIP

open Machine

namespace Link

variable {delay : ℕ} {link destination : IPAddress} {l l' l₀ : Link} {out : List Emission}

def third (l : Link) : ℕ := l.advertiser.lifetime.toNat / 3 * 1000

/-- The agent announces a lifetime that fits its field, in advertisements that can be read, and is
not the home agent. -/
structure Fit (l : Link) : Prop where
  lifetime : 3 ≤ l.advertiser.lifetime.toNat ∧ l.advertiser.lifetime.toNat ≤ 65535
  number : l.advertiser.sequenceNumber.toNat ≤ 65535
  readable : headerSum 48 1 1 l.advertiser.linkAddress .broadcast ≠ 0
  away : l.host.MN.homeAgentPrivateAddress ≠ l.advertiser.linkAddress
  timer : l.advertisementTimer ≤ l.sent + l.third

def Waits (l : Link) : Prop :=
  l.host.soliciter.connected = false ∧ l.host.soliciter.lifetimeTimer = none

/-- The host is connected to the agent and waits for the next number, and the advertisements come in
time: there is one of them in every third of the lifetime. -/
structure Holds (l : Link) : Prop where
  connected : l.host.ConnectedTo l.advertiser.linkAddress
  number : l.advertiser.sequenceNumber.toNat < 256 →
    l.advertiser.sequenceNumber - 1 = l.host.soliciter.advertisementSequenceNumber
  timer : ∃ t, l.host.soliciter.lifetimeTimer = some (t + 1000 * l.advertiser.lifetime.toNat) ∧
    l.advertisementTimer ≤ t + (if l.missed then 2 else 1) * l.third

structure Kept (link : IPAddress) (l : Link) : Prop where
  link : l.advertiser.linkAddress = link
  fit : l.Fit
  state : l.Waits ∨ l.Holds

/-- The next advertisement comes a second before the host is disconnected at the latest. -/
theorem Kept.due (h : Kept link l) :
    ∀ t ∈ l.host.soliciter.lifetimeTimer, l.advertisementTimer + 1000 ≤ t := by
  intro t ht
  rcases h.state with hw | hh
  · rw [hw.2] at ht
    cases ht
  · obtain ⟨t', htimer, hle⟩ := hh.timer
    rw [htimer, Option.mem_some_iff] at ht
    have hlifetime := h.fit.lifetime
    unfold third at hle
    split_ifs at hle
    · omega
    · omega

/-- What is sent by then is heard before the timer of the host fires. -/
theorem Kept.inTime (hdelay : delay ≤ 900) (h : Kept link l) {time : ℕ}
    (htime : time ≤ l.advertisementTimer) {hearing : Option Hearing}
    (hlate : ∀ x ∈ hearing, x.late ≤ delay) : InTime delay l time hearing := by
  refine ⟨fun x hx => ⟨hlate x hx, fun t ht => ?_⟩, fun t ht => ?_⟩
  · have hdue := h.due t ht
    have hle := hlate x hx
    omega
  · have hdue := h.due t ht
    omega

theorem advertise_ok (hfit : l.Fit) (rand : ℕ) : ∃ next : ℕ, next ≤ l.third ∧
    l.advertise rand = .ok ({ l with
      advertiser := (l.advertiser.sendAdvertisement .broadcast).1
      advertisementTimer := l.advertisementTimer + next
      sent := l.advertisementTimer }, (l.advertiser.sendAdvertisement .broadcast).2) := by
  have hlifetime := hfit.lifetime
  have hint : (Int32.ofInt (↑(l.advertiser.lifetime.toNat / 3 * 1000) - ↑(rand % 100))).toInt =
      ↑(l.advertiser.lifetime.toNat / 3 * 1000) - ↑(rand % 100) :=
    Int32.toInt_ofInt_of_le (by omega) (by omega)
  have hnext : l.advertiser.reschedule rand =
      .ok (Int32.ofInt (↑(l.advertiser.lifetime.toNat / 3 * 1000) - ↑(rand % 100))) :=
    (MobileIPAdvertiser.next_eq_ok_iff rand _).2
      ⟨by rw [MobileIPAdvertiser.runTimer_lifetime]; omega, hint⟩
  refine ⟨_, ?_, by rw [advertise, hnext]⟩
  rw [hint]
  unfold third
  omega

theorem simpleAction_cases {a a' : MobileIPAdvertiser} {p : Packet} {packets : List Packet}
    (hs : a.simpleAction p = .ok (a', packets)) :
    packets = [] ∨ ∃ r, (processRouterSolicitationMessage p).1 = .ok r ∧
      a' = (a.sendAdvertisement r.IP.source).1 ∧
      packets = [(a.sendAdvertisement r.IP.source).2] := by
  unfold MobileIPAdvertiser.simpleAction at hs
  split at hs
  · exact Or.inl (Prod.mk.inj (Except.ok.inj hs)).2.symm
  · exact Or.inl (Prod.mk.inj (Except.ok.inj hs)).2.symm
  · cases hs
  · rename_i r hr
    obtain ⟨ha, hpackets⟩ := Prod.mk.inj (Except.ok.inj hs)
    exact Or.inr ⟨r, hr, ha.symm, hpackets.symm⟩

theorem toNat_sequenceNumber_of_lt (hfit : l.Fit) (destination : IPAddress)
    (h : (l.advertiser.sendAdvertisement destination).1.sequenceNumber.toNat < 256) :
    (l.advertiser.sendAdvertisement destination).1.sequenceNumber.toNat =
      l.advertiser.sequenceNumber.toNat + 1 := by
  rw [MobileIPAdvertiser.toNat_sequenceNumber destination hfit.number] at h ⊢
  unfold Numbering.next at h ⊢
  split_ifs at h ⊢
  · omega
  · rfl

theorem Fit.send (hfit : l.Fit) {host : MobileHost} {time timer : ℕ} {missed : Bool}
    (hhost : host.MN.homeAgentPrivateAddress = l.host.MN.homeAgentPrivateAddress)
    (htimer : timer ≤ time + l.third) :
    Fit ⟨(l.advertiser.sendAdvertisement destination).1, timer, host, time, missed⟩ := by
  refine ⟨hfit.lifetime, ?_, hfit.readable, ?_, htimer⟩
  · rw [MobileIPAdvertiser.toNat_sequenceNumber destination hfit.number]
    have hnumber := hfit.number
    unfold Numbering.next
    split_ifs
    · decide
    · omega
  · rw [hhost]
    exact hfit.away

theorem Kept.unheard (h : Kept link l) (destination : IPAddress) {time timer : ℕ} {missed : Bool}
    (htimer : timer ≤ time + l.third)
    (hnumber : l.host.soliciter.connected = true → 255 ≤ l.advertiser.sequenceNumber.toNat)
    (hmissed : ∀ t, l.advertisementTimer ≤ t + (if l.missed then 2 else 1) * l.third →
      l.host.soliciter.connected = true → timer ≤ t + (if missed then 2 else 1) * l.third) :
    Kept link ⟨(l.advertiser.sendAdvertisement destination).1, timer, l.host, time, missed⟩ := by
  refine ⟨h.link, h.fit.send rfl htimer, h.state.imp id fun hh => ?_⟩
  obtain ⟨t, ht, hle⟩ := hh.timer
  refine ⟨hh.connected, fun hlt => ?_, t, ht, hmissed t hle hh.connected.1⟩
  -- the number is 256 or more from now on
  have hnext := toNat_sequenceNumber_of_lt h.fit destination hlt
  have hle' := hnumber hh.connected.1
  dsimp only at hlt
  omega

structure Heard (l : Link) (now : ℕ) (host : MobileHost) : Prop where
  home : host.MN.homeAgentPrivateAddress = l.host.MN.homeAgentPrivateAddress
  connected : host.ConnectedTo l.advertiser.linkAddress
  timer : host.soliciter.lifetimeTimer = some (now + 1000 * l.advertiser.lifetime.toNat)
  number : l.advertiser.sequenceNumber.toNat < 256 →
    host.soliciter.advertisementSequenceNumber = l.advertiser.sequenceNumber

theorem processAdvertisement_heard (h : Kept link l) (destination : IPAddress) (now : ℕ)
    (ctx : SendContext) (ether : EtherHeader) :
    l.Heard now (l.host.processAdvertisement now ctx ether
      (l.advertiser.advertisement destination)).1 := by
  have hfit := h.fit
  have hlifetime : (l.advertiser.advertisement destination).lifetime = l.advertiser.lifetime :=
    toUInt32_toUInt16 hfit.lifetime.2
  have hnumber : (l.advertiser.advertisement destination).sequenceNumber =
      l.advertiser.sequenceNumber := toUInt32_toUInt16 hfit.number
  have hsource : (l.advertiser.advertisement destination).IP.source = l.advertiser.linkAddress :=
    rfl
  rcases h.state with hw | hh
  · have hstep : l.host.processAdvertisement now ctx ether
        (l.advertiser.advertisement destination) =
          l.host.connect now ctx (l.advertiser.advertisement destination) ether true := by
      unfold MobileHost.processAdvertisement
      rw [hsource, if_neg hfit.away.symm, if_pos hw.1]
    rw [hstep]
    refine ⟨?_, ⟨rfl, rfl⟩, ?_, fun _ => hnumber⟩
    · exact (MobileIPNode.reregister_sameSetup l.host.MN ctx _ _ _).homeAgentPrivateAddress
    · change some (now + 1000 * (l.advertiser.advertisement destination).lifetime.toNat) = _
      rw [hlifetime]
  · have hreset : ¬ (l.advertiser.sequenceNumber - 1 ≠ l.host.soliciter.advertisementSequenceNumber ∧
        l.advertiser.sequenceNumber < 256) := by
      rintro ⟨hne, hlt⟩
      exact hne (hh.number (UInt32.lt_iff_toNat_lt.1 hlt))
    rw [MobileHost.processAdvertisement_own hh.connected hfit.away.symm, hnumber, if_neg hreset]
    refine ⟨rfl, hh.connected, ?_, fun hlt => ?_⟩
    · change some (now + 1000 * (l.advertiser.advertisement destination).lifetime.toNat) = _
      rw [hlifetime]
    · change l.host.soliciter.advertisementSequenceNumber + 1 = _
      rw [← hh.number hlt, UInt32.sub_add_cancel]

theorem Heard.kept (h : Kept link l) {time late timer : ℕ} {host : MobileHost}
    (hheard : l.Heard (time + late) host) (htimer : timer ≤ time + l.third) :
    Kept link ⟨(l.advertiser.sendAdvertisement destination).1, timer, host, time, false⟩ := by
  refine ⟨h.link, h.fit.send hheard.home htimer, Or.inr ⟨hheard.connected, fun hlt => ?_,
    time + late, hheard.timer, ?_⟩⟩
  · have hnext := toNat_sequenceNumber_of_lt h.fit destination hlt
    dsimp only at hlt
    rw [← UInt32.toNat_inj, UInt32.toNat_sub, hnext, hheard.number (by omega), UInt32.toNat_one]
    have hnumber := h.fit.number
    omega
  · change timer ≤ time + late + 1 * l.third
    omega

theorem Kept.hear (h : Kept link l)
    (hreadable : headerSum 48 1 1 l.advertiser.linkAddress destination ≠ 0) {time timer : ℕ}
    (htimer : timer ≤ time + l.third) {missed : Bool} {x : Hearing}
    (hs : Link.hear ⟨(l.advertiser.sendAdvertisement destination).1, timer, l.host, time, missed⟩
      (l.advertiser.sendAdvertisement destination).2 x = .ok (l', out)) :
    Kept link l' ∧ l'.host.soliciter.connected = true := by
  have hreads : MobileHost.Reads
      (etherEncap (l.advertiser.sendAdvertisement destination).2 x.shost x.dhost)
      (l.advertiser.advertisement destination) :=
    ⟨l.advertiser.frame_type _ _ _, (l.advertiser.advertisement_read_iff _ _ _ _).2
      ⟨hreadable, rfl⟩⟩
  have hheard := processAdvertisement_heard h destination (time + x.late) x.ctx
    (processEtherHeader (etherEncap (l.advertiser.sendAdvertisement destination).2 x.shost x.dhost)
      true).1
  unfold Link.hear hostStep at hs
  dsimp only [MobileHost.step] at hs
  rw [MobileHost.simpleAction_of_reads hreads] at hs
  generalize (l.host.processAdvertisement (time + x.late) x.ctx _ _) = r at hheard hs
  obtain ⟨rfl, -⟩ := Prod.mk.inj (Except.ok.inj hs)
  exact ⟨hheard.kept h htimer, hheard.connected.1⟩

theorem Kept.hostStep (h : Kept link l) (e : HostEvent)
    (he : ∀ now ctx unset p, e ≠ .simpleAction now ctx unset p) (he' : e ≠ .lifetimeExpired)
    (hs : l.hostStep e = .ok (l', out)) :
    Kept link l' ∧ l'.host.soliciter.connected = l.host.soliciter.connected := by
  unfold Link.hostStep at hs
  cases hstep : l.host.step e with
  | error _ =>
    rw [hstep] at hs
    cases hs
  | ok r =>
    rw [hstep] at hs
    obtain ⟨host, out'⟩ := r
    cases hs
    have hhome := MobileHost.home_step (y := ⟨l.host, e, out, host⟩) hstep
    rcases MobileHost.step_soliciter hstep he with hsame | ⟨hexpired, -⟩
    · have hconnected : host.soliciter.connected = l.host.soliciter.connected := by rw [hsame]
      have haddress : host.soliciter.agentAddress = l.host.soliciter.agentAddress := by rw [hsame]
      have htimer : host.soliciter.lifetimeTimer = l.host.soliciter.lifetimeTimer := by rw [hsame]
      have hnumber : host.soliciter.advertisementSequenceNumber =
          l.host.soliciter.advertisementSequenceNumber := by rw [hsame]
      refine ⟨⟨h.link, ⟨h.fit.lifetime, h.fit.number, h.fit.readable, ?_, h.fit.timer⟩, ?_⟩,
        hconnected⟩
      · exact hhome.trans_ne h.fit.away
      · refine h.state.imp (fun hw => ?_) fun hh => ?_
        · exact ⟨hconnected.trans hw.1, htimer.trans hw.2⟩
        · obtain ⟨t, ht, hle⟩ := hh.timer
          refine ⟨⟨hconnected.trans hh.connected.1, haddress.trans hh.connected.2⟩, fun hlt => ?_, t,
            htimer.trans ht, hle⟩
          exact (hh.number hlt).trans hnumber.symm
    · exact absurd hexpired he'

/-- An advertisement may be lost before the host is connected; after that only if the one that
follows does not look like that of an agent that has restarted, and one that the timer has sent only
if something was heard since it fired before. -/
def Tolerable (x : Entry Link LinkEvent Emission) : Prop :=
  match x.event with
  | .advertise _ none => x.before.host.soliciter.connected = true →
    x.before.missed = false ∧ 255 ≤ x.before.advertiser.sequenceNumber.toNat
  | .solicit _ p none => ∀ r, (processRouterSolicitationMessage p).1 = .ok r →
    x.before.host.soliciter.connected = true → 255 ≤ x.before.advertiser.sequenceNumber.toNat
  | .solicit _ p (some _) => ∀ r, (processRouterSolicitationMessage p).1 = .ok r →
    headerSum 48 1 1 x.before.advertiser.linkAddress r.IP.source ≠ 0
  | _ => True

def hears (delay : ℕ) (x : Entry Link LinkEvent Emission) : Bool :=
  match x.event with
  | .advertise _ (some y) => decide (y.late ≤ delay)
  | _ => false

variable {x : Entry Link LinkEvent Emission}

theorem Kept.advertise (hdelay : delay ≤ 900) (h : Kept link x.before)
    (hs : x.before.step delay x.event = .ok (x.after, x.out)) (htolerable : Tolerable x) {rand : ℕ}
    {hearing : Option Hearing} (he : x.event = .advertise rand hearing) :
    Kept link x.after ∧ (x.before.host.soliciter.connected = true ∨ hears delay x = true →
      x.after.host.soliciter.connected = true) := by
  obtain ⟨next, hnext, hok⟩ := advertise_ok h.fit rand
  have htimer : x.before.advertisementTimer + next ≤ x.before.advertisementTimer + x.before.third :=
    Nat.add_le_add_left hnext _
  rw [he] at hs
  unfold Link.step at hs
  dsimp only at hs
  rw [hok] at hs
  cases hearing with
  | none =>
    rw [if_pos (h.inTime hdelay le_rfl (by simp))] at hs
    rw [Tolerable, he] at htolerable
    rw [← (Prod.mk.inj (Except.ok.inj hs)).1]
    refine ⟨h.unheard .broadcast htimer (fun hc => (htolerable hc).2) fun t ht hc => ?_,
      fun hor => ?_⟩
    · rw [(htolerable hc).1] at ht
      simp only [Bool.false_eq_true, if_false, if_true] at ht ⊢
      omega
    · refine hor.elim id fun hhears => ?_
      rw [hears, he] at hhears
      cases hhears
  | some y =>
    by_cases hlate : y.late ≤ delay
    · rw [if_pos (h.inTime hdelay le_rfl (by simpa using hlate))] at hs
      obtain ⟨hkept, hconnected⟩ := h.hear h.fit.readable htimer hs
      exact ⟨hkept, fun _ => hconnected⟩
    · -- so late an advertisement does not come
      rw [if_neg fun hin => hlate (hin.1 y rfl).1] at hs
      rw [← (Prod.mk.inj (Except.ok.inj hs)).1]
      refine ⟨h, fun hor => hor.elim id fun hhears => ?_⟩
      rw [hears, he] at hhears
      exact absurd (of_decide_eq_true hhears) hlate

theorem Kept.solicit (h : Kept link x.before)
    (hs : x.before.step delay x.event = .ok (x.after, x.out)) (htolerable : Tolerable x) {time : ℕ}
    {p : Packet} {hearing : Option Hearing} (he : x.event = .solicit time p hearing) :
    Kept link x.after ∧ (x.before.host.soliciter.connected = true →
      x.after.host.soliciter.connected = true) := by
  rw [he] at hs
  unfold Link.step at hs
  dsimp only at hs
  rw [Tolerable, he] at htolerable
  split_ifs at hs with hin
  · -- the timer of the agent is not put off
    have htimer : x.before.advertisementTimer ≤ time + x.before.third :=
      h.fit.timer.trans (Nat.add_le_add_right hin.1.1 _)
    cases haction : x.before.advertiser.simpleAction p with
    | error _ =>
      rw [haction] at hs
      cases hs
    | ok r =>
      rw [haction] at hs
      obtain ⟨a, packets⟩ := r
      rcases simpleAction_cases haction with rfl | ⟨r, hr, rfl, rfl⟩
      · rw [← (Prod.mk.inj (Except.ok.inj hs)).1]
        exact ⟨h, id⟩
      · cases hearing with
        | none =>
          rw [← (Prod.mk.inj (Except.ok.inj hs)).1]
          exact ⟨h.unheard _ htimer (htolerable r hr) fun t ht _ => ht, id⟩
        | some y =>
          obtain ⟨hkept, hconnected⟩ := h.hear (htolerable r hr) htimer hs
          exact ⟨hkept, fun _ => hconnected⟩
  · rw [← (Prod.mk.inj (Except.ok.inj hs)).1]
    exact ⟨h, id⟩

theorem Kept.lifetimeExpired (hdelay : delay ≤ 900) (h : Kept link l) :
    l.step delay .lifetimeExpired = .ok (l, []) := by
  rw [Link.step, if_neg]
  rintro ⟨t, ht, hle⟩
  have hdue := h.due t ht
  omega

theorem Kept.step (hdelay : delay ≤ 900) (h : Kept link x.before)
    (hs : x.before.step delay x.event = .ok (x.after, x.out)) (htolerable : Tolerable x) :
    Kept link x.after ∧ (x.event = .lifetimeExpired → x.after = x.before) ∧
      (x.before.host.soliciter.connected = true ∨ hears delay x = true →
        x.after.host.soliciter.connected = true) := by
  by_cases hadvertise : ∃ rand hearing, x.event = .advertise rand hearing
  · obtain ⟨rand, hearing, he⟩ := hadvertise
    obtain ⟨hkept, hconnected⟩ := h.advertise hdelay hs htolerable he
    refine ⟨hkept, fun hexpired => ?_, hconnected⟩
    rw [he] at hexpired
    cases hexpired
  · have hhears : ¬ hears delay x = true := by
      intro hhears
      unfold hears at hhears
      split at hhears
      · exact hadvertise ⟨_, _, ‹_›⟩
      · cases hhears
    rw [or_iff_left hhears]
    cases he : x.event with
    | advertise rand hearing => exact absurd ⟨rand, hearing, he⟩ hadvertise
    | solicit time p hearing =>
      obtain ⟨hkept, hconnected⟩ := h.solicit hs htolerable he
      exact ⟨hkept, fun hexpired => (nomatch hexpired), hconnected⟩
    | lifetimeExpired =>
      rw [he, h.lifetimeExpired hdelay] at hs
      rw [← (Prod.mk.inj (Except.ok.inj hs)).1]
      exact ⟨h, fun _ => rfl, id⟩
    | enableFastMoving value =>
      rw [he] at hs
      obtain ⟨hkept, hsame⟩ := h.hostStep (.enableFastMoving value) (by simp) (by simp) hs
      exact ⟨hkept, fun hexpired => (nomatch hexpired), hsame.trans⟩
    | push ctx p =>
      rw [he] at hs
      obtain ⟨hkept, hsame⟩ := h.hostStep (.push ctx p) (by simp) (by simp) hs
      exact ⟨hkept, fun hexpired => (nomatch hexpired), hsame.trans⟩
    | runTimer ctx =>
      rw [he] at hs
      obtain ⟨hkept, hsame⟩ := h.hostStep (.runTimer ctx) (by simp) (by simp) hs
      exact ⟨hkept, fun hexpired => (nomatch hexpired), hsame.trans⟩
    | requestTimeout value =>
      rw [he] at hs
      obtain ⟨hkept, hsame⟩ := h.hostStep (.requestTimeout value) (by simp) (by simp) hs
      exact ⟨hkept, fun hexpired => (nomatch hexpired), hsame.trans⟩

section Examples

open Definitions

/-- A node away from home, on the link of an agent that has been up for a while. -/
def away : Link where
  advertiser := { MobileIPAdvertiser.advertiser with sequenceNumber := 300 }
  advertisementTimer := 3000
  host := mobileHost

def hearing (late : ℕ) : Hearing := ⟨late, sendAt 1, ⟨0, 0, 0, 0, false, false⟩, .zero, .zero⟩

end Examples

end Link

end MobileIP
