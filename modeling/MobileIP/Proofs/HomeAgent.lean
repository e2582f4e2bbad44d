import MobileIP.Lib.Run
import MobileIP.Proofs.Lists
import MobileIP.Proofs.Messages
import MobileIP.Spec.Definitions
import MobileIP.Spec.Tunnel

/-! What the home agent does with a request: it admits it or not, and a request that is admitted
removes bindings or sets one. From this, when the data path follows the latest registration. -/

namespace MobileIP

namespace MobileIPHomeAgent

structure Admits (ha : MobileIPHomeAgent) (registration : RegistrationRequest) : Prop where
  port : registration.UDP.destinationPort = 434
  reserved : registration.r = false ∧ registration.x = false
  options : registration.D = false ∧ registration.M = false ∧ registration.G = false ∧
    registration.T = false
  homeAgent : registration.homeAgent = ha.publicAddress
  destination : registration.IP.destination = ha.privateAddress ∨
    registration.IP.destination = ha.publicAddress

def bindingsAfter (ha : MobileIPHomeAgent) (registration : RegistrationRequest) :
    MobilityBindingList :=
  if registration.lifetime = 0 then
    if registration.careOf = registration.home then
      MobilityBindingList.removeAll registration.home ha.mobilityBindings
    else MobilityBindingList.remove registration.home registration.careOf ha.mobilityBindings
  else
    MobilityBindingList.add registration.home registration.careOf
      (min registration.lifetime ha.maxAcceptedLifetime) ha.mobilityBindings

def lifetimeGranted (ha : MobileIPHomeAgent) (registration : RegistrationRequest) : UInt32 :=
  min registration.lifetime ha.maxAcceptedLifetime

theorem sendReply_code {ha : MobileIPHomeAgent} {clock : Clock} {registration : RegistrationRequest}
    {code : UInt8} {port : ℕ} {lifetime : UInt32} :
    ∀ e ∈ ha.sendReply clock registration code port lifetime, e.code = some code := by
  simp [sendReply, Emission.code, UDPIPfy, buildRegistrationReplyPacket]

/-- The home agent clamps the lifetime by hand. -/
theorem clamp_eq_min (x y : UInt32) : (if x > y then y else x) = min x y := by
  refine UInt32.toNat_inj.1 ?_
  rw [UInt32.toNat_min]
  split_ifs with h
  · have := UInt32.lt_iff_toNat_lt.1 h
    omega
  · rw [gt_iff_lt, UInt32.lt_iff_toNat_lt] at h
    omega

theorem checkForUnkwownHomeAgent_known {ha : MobileIPHomeAgent}
    {registration : RegistrationRequest} (hh : registration.homeAgent = ha.publicAddress)
    (hd : registration.IP.destination = ha.privateAddress ∨
      registration.IP.destination = ha.publicAddress) (clock : Clock) (port : ℕ) :
    ha.checkForUnkwownHomeAgent clock registration port = (true, []) := by
  simp only [checkForUnkwownHomeAgent]
  rw [if_pos ⟨hh, hd⟩]

theorem checkForUnkwownHomeAgent_unknown {ha : MobileIPHomeAgent}
    {registration : RegistrationRequest}
    (h : ¬ (registration.homeAgent = ha.publicAddress ∧
      (registration.IP.destination = ha.privateAddress ∨
        registration.IP.destination = ha.publicAddress))) (clock : Clock) (port : ℕ) :
    (ha.checkForUnkwownHomeAgent clock registration port).1 = false := by
  simp only [checkForUnkwownHomeAgent]
  rw [if_neg h]

theorem checkForUnkwownHomeAgent_code {ha : MobileIPHomeAgent} {clock : Clock}
    {registration : RegistrationRequest} {port : ℕ} :
    ∀ e ∈ (ha.checkForUnkwownHomeAgent clock registration port).2, e.code = some 136 := by
  intro e he
  simp only [checkForUnkwownHomeAgent] at he
  split_ifs at he
  · simp at he
  · rw [List.mem_singleton.1 he]
    rfl
  · rw [List.mem_singleton.1 he]
    rfl
  · rw [List.mem_singleton.1 he]
    rfl

theorem checkRegistrationValidity_code {ha : MobileIPHomeAgent} {clock : Clock}
    {registration : RegistrationRequest} {port : ℕ} :
    ∀ e ∈ (ha.checkRegistrationValidity clock registration port).2,
      e.code = some 134 ∨ e.code = some 128 := by
  intro e he
  unfold checkRegistrationValidity at he
  split_ifs at he
  · simp at he
  · exact Or.inl (sendReply_code e he)
  · exact Or.inr (sendReply_code e he)
  · simp at he

theorem processRegistration_of_admits {ha : MobileIPHomeAgent} {registration : RegistrationRequest}
    (h : ha.Admits registration) (clock : Clock) (port : ℕ) :
    ha.processRegistration clock port registration =
      ({ ha with mobilityBindings := ha.bindingsAfter registration },
        ha.sendReply clock registration 0 port (ha.lifetimeGranted registration)) := by
  obtain ⟨hp, ⟨hr, hx⟩, ⟨hD, hM, hG, hT⟩, hh, hd⟩ := h
  have hvalid : ha.checkRegistrationValidity clock registration port = (true, []) := by
    simp [checkRegistrationValidity, hp, hr, hx, hD, hM, hG, hT]
  have hzero : min 0 ha.maxAcceptedLifetime = 0 := by
    rw [← clamp_eq_min, if_neg (by simp)]
  simp only [processRegistration, hvalid, checkForUnkwownHomeAgent_known hh hd, bindingsAfter,
    lifetimeGranted, clamp_eq_min]
  by_cases h0 : registration.lifetime = 0
  · rw [if_pos h0, if_pos h0, h0, hzero]
  · rw [if_neg h0, if_neg h0]

theorem processRegistration_of_unknown {ha : MobileIPHomeAgent} {registration : RegistrationRequest}
    {clock : Clock} {port : ℕ} {out : List Emission}
    (hvalid : ha.checkRegistrationValidity clock registration port = (true, out))
    (hunknown : (ha.checkForUnkwownHomeAgent clock registration port).1 = false) :
    ha.processRegistration clock port registration =
      (ha, (ha.checkForUnkwownHomeAgent clock registration port).2) := by
  unfold processRegistration
  rw [hvalid]
  rcases hu : ha.checkForUnkwownHomeAgent clock registration port with ⟨known, out'⟩
  rw [hu] at hunknown
  obtain rfl : known = false := hunknown
  rfl

theorem processRegistration_stops {ha : MobileIPHomeAgent} {registration : RegistrationRequest}
    (h : ¬ ha.Admits registration) (clock : Clock) (port : ℕ) :
    ha.processRegistration clock port registration =
        (ha, (ha.checkRegistrationValidity clock registration port).2) ∨
      ha.processRegistration clock port registration =
        (ha, (ha.checkForUnkwownHomeAgent clock registration port).2) := by
  rcases hc : ha.checkRegistrationValidity clock registration port with ⟨valid, out⟩
  cases valid with
  | false =>
    refine Or.inl ?_
    rw [processRegistration, hc]
  | true =>
    have hunknown : ¬ (registration.homeAgent = ha.publicAddress ∧
        (registration.IP.destination = ha.privateAddress ∨
          registration.IP.destination = ha.publicAddress)) := by
      intro hknown
      obtain ⟨hh, hd⟩ := hknown
      simp only [checkRegistrationValidity] at hc
      split_ifs at hc with hp hr ho
      · simp at hc
      · simp at hc
      · simp at hc
      · simp only [not_or, Bool.not_eq_true] at hr ho
        exact h ⟨not_not.1 hp, hr, ho, hh, hd⟩
    exact Or.inr (processRegistration_of_unknown hc
      (checkForUnkwownHomeAgent_unknown hunknown clock port))

theorem processRegistration_of_not_admits {ha : MobileIPHomeAgent}
    {registration : RegistrationRequest} (h : ¬ ha.Admits registration) (clock : Clock) (port : ℕ) :
    (ha.processRegistration clock port registration).1 = ha ∧
      ∀ e ∈ (ha.processRegistration clock port registration).2, e.code ≠ some 0 := by
  rcases processRegistration_stops h clock port with heq | heq
  · rw [heq]
    refine ⟨rfl, fun e he => ?_⟩
    rcases checkRegistrationValidity_code e he with hcode | hcode
    · rw [hcode]
      decide
    · rw [hcode]
      decide
  · rw [heq]
    refine ⟨rfl, fun e he => ?_⟩
    rw [checkForUnkwownHomeAgent_code e he]
    decide

theorem accepted_iff_admits (ha : MobileIPHomeAgent) (registration : RegistrationRequest)
    (clock : Clock) (port : ℕ) :
    (∃ e ∈ (ha.processRegistration clock port registration).2, e.code = some 0) ↔
      ha.Admits registration := by
  constructor
  · intro hacc
    obtain ⟨e, he, hcode⟩ := hacc
    by_contra h
    exact (processRegistration_of_not_admits h clock port).2 e he hcode
  · intro h
    rw [processRegistration_of_admits h clock port]
    exact ⟨_, List.mem_singleton_self _, sendReply_code _ (List.mem_singleton_self _)⟩

def acceptance (ha : MobileIPHomeAgent) (clock : Clock) (registration : RegistrationRequest) :
    Datagram RegistrationReplyPacket :=
  UDPIPfy (buildRegistrationReplyPacket clock (ha.lifetimeGranted registration) 0 registration.home
    registration.homeAgent registration.identification) registration.IP.destination 434
    registration.IP.source registration.UDP.sourcePort 1

theorem acceptance_reply {ha : MobileIPHomeAgent} {registration : RegistrationRequest}
    (hl : (ha.lifetimeGranted registration).toNat ≤ 65535)
    (hport : registration.UDP.sourcePort.toNat ≤ 65535) (clock : Clock) :
    (ha.acceptance clock registration).reply =
      { code := 0
        lifetime := ha.lifetimeGranted registration
        home := registration.home
        homeAgent := registration.homeAgent
        UDP := ⟨434, registration.UDP.sourcePort⟩
        IP := ⟨registration.IP.destination, registration.IP.source⟩
        identification := registration.identification } :=
  reply_UDPIPfy hl (by decide) hport _ _ _ _ _ _ _ _

theorem sendReply_public {ha : MobileIPHomeAgent} {registration : RegistrationRequest}
    (h : ha.lifetimeGranted registration ≠ 0) (clock : Clock) :
    ha.sendReply clock registration 0 1 (ha.lifetimeGranted registration) =
      [⟨1, .reply (ha.acceptance clock registration)⟩] := by
  simp [sendReply, acceptance, h]

theorem step_push_of_decodes (ha : MobileIPHomeAgent) (clock : Clock) (port : ℕ) {p : Packet}
    {registration : RegistrationRequest} (hp : getPacketType p = .registration)
    (hreg : (processRegistrationRequestPacket p).1 = .ok registration) :
    ha.step (.push clock port p) = .ok ((ha.processRegistration clock port registration).1,
      (ha.processRegistration clock port registration).2) := by
  simp only [step, push, if_pos hp, hreg]

def Receives (e : HAEvent) (clock : Clock) (port : ℕ) (registration : RegistrationRequest) : Prop :=
  ∃ p, e = .push clock port p ∧ getPacketType p = .registration ∧
    (processRegistrationRequestPacket p).1 = .ok registration

theorem Receives.step {e : HAEvent} {clock : Clock} {port : ℕ} {registration : RegistrationRequest}
    (h : Receives e clock port registration) (ha : MobileIPHomeAgent) :
    ha.step e = .ok ((ha.processRegistration clock port registration).1,
      (ha.processRegistration clock port registration).2) := by
  obtain ⟨p, rfl, hp, hreg⟩ := h
  exact step_push_of_decodes ha clock port hp hreg

theorem Receives.unique {e : HAEvent} {clock clock' : Clock} {port port' : ℕ}
    {registration registration' : RegistrationRequest} (h : Receives e clock port registration)
    (h' : Receives e clock' port' registration') : registration = registration' := by
  obtain ⟨p, rfl, -, hreg⟩ := h
  obtain ⟨p', heq, -, hreg'⟩ := h'
  obtain ⟨-, -, rfl⟩ := HAEvent.push.inj heq
  exact Except.ok.inj (hreg.symm.trans hreg')

theorem push_of_not_receives {clock : Clock} {port : ℕ} {p : Packet}
    (h : ∀ registration, ¬ Receives (.push clock port p) clock port registration)
    (ha : MobileIPHomeAgent) : ha.push clock port p = .ok (ha, []) := by
  unfold push
  split_ifs with hp
  · cases hr : (processRegistrationRequestPacket p).1 with
    | ok registration => exact absurd ⟨p, rfl, hp, hr⟩ (h registration)
    | error e =>
      obtain ⟨_, rfl⟩ | ⟨_, rfl⟩ := (processRegistrationRequestPacket_error hr).cases
      · rfl
      · rfl
  · rfl

/-- The steps of a home agent, none of which fails: it handles a request, it ticks, or it leaves the
bindings alone. -/
theorem step_cases (ha : MobileIPHomeAgent) (e : HAEvent) :
    (∃ clock port registration, Receives e clock port registration ∧
      ha.step e = .ok (ha.processRegistration clock port registration)) ∨
    (e = .runTimer ∧ ha.step e = .ok (ha.runTimer, [])) ∨
    (∃ ha', (∀ clock port registration, ¬ Receives e clock port registration) ∧ e ≠ .runTimer ∧
      ha.step e = .ok (ha', []) ∧ ha'.mobilityBindings = ha.mobilityBindings) := by
  cases e with
  | push clock port p =>
    by_cases h : ∃ registration, Receives (.push clock port p) clock port registration
    · obtain ⟨registration, hr⟩ := h
      exact Or.inl ⟨clock, port, registration, hr, hr.step ha⟩
    · refine Or.inr (Or.inr ⟨ha, ?_, by simp, push_of_not_receives (not_exists.1 h) ha, rfl⟩)
      intro clock' port' registration hr
      obtain ⟨p', heq, hp⟩ := hr
      obtain ⟨-, -, rfl⟩ := HAEvent.push.inj heq
      exact h ⟨registration, p, rfl, hp⟩
  | runTimer => exact Or.inr (Or.inl ⟨rfl, rfl⟩)
  | maxLifetime value =>
    exact Or.inr (Or.inr ⟨_, by simp [Receives], by simp, rfl, rfl⟩)

theorem bindingsAfter_nodup {ha : MobileIPHomeAgent} (registration : RegistrationRequest)
    (h : (ha.mobilityBindings.map fun it => (it.homeAddress, it.careOfAddress)).Nodup) :
    ((ha.bindingsAfter registration).map fun it => (it.homeAddress, it.careOfAddress)).Nodup := by
  unfold bindingsAfter
  split_ifs
  · rw [MobilityBindingList.removeAll_eq]
    exact h.sublist (List.filter_sublist.map _)
  · rw [MobilityBindingList.remove_eq]
    exact h.sublist (List.filter_sublist.map _)
  · rw [MobilityBindingList.keys_add]
    split_ifs with hm
    · exact h
    · exact List.nodup_append.2 ⟨h, List.nodup_singleton _, fun k hk k' hk' heq =>
        hm (List.mem_singleton.1 hk' ▸ heq ▸ hk)⟩

theorem bindingsAfter_binding {ha : MobileIPHomeAgent} {registration : RegistrationRequest}
    (hl : registration.lifetime ≠ 0)
    (h : (ha.mobilityBindings.map fun it => (it.homeAddress, it.careOfAddress)).Nodup) :
    ((ha.bindingsAfter registration).filter fun it =>
        decide ((it.homeAddress, it.careOfAddress) = (registration.home, registration.careOf))).map
      MobilityBindingListItem.remainingLifetime = [ha.lifetimeGranted registration] := by
  have hmem : ⟨registration.home, registration.careOf, ha.lifetimeGranted registration⟩ ∈
      ha.bindingsAfter registration := by
    rw [bindingsAfter, if_neg hl]
    exact MobilityBindingList.mem_add _ _ _ _
  rw [CountDown.filter_key_eq_singleton (bindingsAfter_nodup registration h) hmem,
    List.map_singleton]

theorem bindings_nodup_step {ha ha' : MobileIPHomeAgent} {e : HAEvent} {out : List Emission}
    (h : (ha.mobilityBindings.map fun it => (it.homeAddress, it.careOfAddress)).Nodup)
    (hs : ha.step e = .ok (ha', out)) :
    (ha'.mobilityBindings.map fun it => (it.homeAddress, it.careOfAddress)).Nodup := by
  rcases step_cases ha e with ⟨clock, port, registration, -, heq⟩ | ⟨-, heq⟩ |
    ⟨_, -, -, heq, hsame⟩
  · rw [heq] at hs
    have hfst : ha' = (ha.processRegistration clock port registration).1 := by
      rw [Except.ok.inj hs]
    rw [hfst]
    by_cases hadm : ha.Admits registration
    · rw [processRegistration_of_admits hadm]
      exact bindingsAfter_nodup registration h
    · rw [(processRegistration_of_not_admits hadm clock port).1]
      exact h
  · rw [heq] at hs
    cases hs
    simp only [runTimer, MobilityBindingList.decreaseLifetime_eq]
    exact h.sublist
      (CountDown.keys_filterMap_sublist (fun _ _ => MobilityBindingList.countDown_key) _)
  · rw [heq] at hs
    cases hs
    rw [hsame]
    exact h

/-- The step of a run in which the request arrives, readable, and is answered with code 0. -/
def Accepts (x : Machine.Entry MobileIPHomeAgent HAEvent Emission)
    (registration : RegistrationRequest) : Prop :=
  ∃ clock port p, x.event = .push clock port p ∧ getPacketType p = .registration ∧
    (processRegistrationRequestPacket p).1 = .ok registration ∧ ∃ e ∈ x.out, e.code = some 0

structure TunnelsTo (ha : MobileIPHomeAgent) (h c : IPAddress) : Prop where
  lookup : MobilityBindingList.getCareOfAddress h ha.mobilityBindings = c
  tunnel : ∀ p ip p', processIPHeader p = (.ok ip, p') → ip.destination = h →
    MobileIPEncapsulator.push ha p = .ok [(1, buildTunnelIPPacket p' ha.publicAddress c)]

theorem tunnelsTo_of_bound {ha : MobileIPHomeAgent} {h c : IPAddress}
    (hb : MobilityBindingList.isMobileBinded h ha.mobilityBindings = true)
    (hc : MobilityBindingList.getCareOfAddress h ha.mobilityBindings = c) : ha.TunnelsTo h c := by
  refine ⟨hc, ?_⟩
  intro p ip p' hp hdest
  subst hdest
  simp only [MobileIPEncapsulator.push, hp, hb, hc, if_true]

theorem Accepts.after_eq {x : Machine.Entry MobileIPHomeAgent HAEvent Emission}
    {registration : RegistrationRequest} (hx : x.before.step x.event = .ok (x.after, x.out))
    (h : Accepts x registration) :
    x.after = { x.before with mobilityBindings := x.before.bindingsAfter registration } := by
  obtain ⟨clock, port, p, hev, hp, hreg, e, he, hcode⟩ := h
  rw [hev, step_push_of_decodes _ _ _ hp hreg, Except.ok.injEq, Prod.mk.injEq] at hx
  have hadm : x.before.Admits registration := by
    rw [← accepted_iff_admits _ _ clock port, hx.2]
    exact ⟨e, he, hcode⟩
  rw [← hx.1, processRegistration_of_admits hadm]

theorem Accepts.tunnelsTo_iff {x : Machine.Entry MobileIPHomeAgent HAEvent Emission}
    {registration : RegistrationRequest} (hx : x.before.step x.event = .ok (x.after, x.out))
    (h : Accepts x registration) (hl : registration.lifetime ≠ 0) :
    x.after.TunnelsTo registration.home registration.careOf ↔
      ∀ it, x.before.mobilityBindings.find? (fun it => decide (it.homeAddress = registration.home))
        = some it → it.careOfAddress = registration.careOf := by
  rw [← MobilityBindingList.getCareOfAddress_add_iff _ _
    (min registration.lifetime x.before.maxAcceptedLifetime), h.after_eq hx]
  have hafter : x.before.bindingsAfter registration = MobilityBindingList.add registration.home
      registration.careOf (min registration.lifetime x.before.maxAcceptedLifetime)
      x.before.mobilityBindings := if_neg hl
  rw [hafter]
  constructor
  · exact fun ht => ht.lookup
  · exact fun hc => tunnelsTo_of_bound (MobilityBindingList.isMobileBinded_add _ _ _ _) hc

/-- The latest registration wins in a run exactly when, whenever one is accepted, the first binding
its home address has by then is to the same care-of address. -/
theorem latest_registration_wins_iff {ha₀ ha : MobileIPHomeAgent}
    {tr : Machine.Trace MobileIPHomeAgent HAEvent Emission}
    (h : Machine.Run MobileIPHomeAgent.step ha₀ tr ha) :
    (∀ x ∈ tr, ∀ registration, Accepts x registration → registration.lifetime ≠ 0 →
        registration.S = false → x.after.TunnelsTo registration.home registration.careOf) ↔
      ∀ x ∈ tr, ∀ registration, Accepts x registration → registration.lifetime ≠ 0 →
        registration.S = false → ∀ it,
          x.before.mobilityBindings.find? (fun it => decide (it.homeAddress = registration.home))
            = some it → it.careOfAddress = registration.careOf := by
  refine forall₂_congr fun x hx => forall_congr' fun registration => ?_
  refine forall₂_congr fun hacc hl => forall_congr' fun _ => ?_
  exact hacc.tunnelsTo_iff (h.step_mem x hx) hl

section Examples

open Definitions

theorem latest_registration_wins_renewal :
    ∃ tr ha, Machine.Run MobileIPHomeAgent.step homeAgent tr ha ∧ tr.length = 2 ∧
      ∀ x ∈ tr, ∀ registration, Accepts x registration → registration.lifetime ≠ 0 →
        registration.S = false → x.after.TunnelsTo registration.home registration.careOf := by
  let registration := (relayedRequest foreignAgentPublicAddress 100 1).request
  have hp : getPacketType ((relayedRequest foreignAgentPublicAddress 100 1).packet
      RegistrationRequestPacket.bytes) = .registration := by decide +kernel
  have hreg : (processRegistrationRequestPacket ((relayedRequest foreignAgentPublicAddress 100
      1).packet RegistrationRequestPacket.bytes)).1 = .ok registration := by decide +kernel
  have hrun := (Machine.Run.nil.snoc (step_push_of_decodes homeAgent ⟨0, 0⟩ 1 hp hreg)).snoc
    (step_push_of_decodes _ ⟨0, 0⟩ 1 hp hreg)
  refine ⟨_, _, hrun, rfl, (latest_registration_wins_iff hrun).2 ?_⟩
  intro x hx r hacc _ _ it hit
  obtain ⟨_, _, p, hev, -, hr, -⟩ := hacc
  simp only [List.nil_append, List.cons_append, List.mem_cons, List.not_mem_nil, or_false] at hx
  rcases hx with rfl | rfl
  · cases hit
  · obtain ⟨-, -, rfl⟩ := HAEvent.push.inj hev
    obtain rfl := Except.ok.inj (hreg.symm.trans hr)
    revert it
    decide

/-- A node that moves to a second foreign agent is still tunnelled to the first. -/
theorem latest_registration_loses :
    ¬ ∀ tr ha, Machine.Run MobileIPHomeAgent.step homeAgent tr ha → ∀ x ∈ tr, ∀ registration,
      Accepts x registration → registration.lifetime ≠ 0 → registration.S = false →
        x.after.TunnelsTo registration.home registration.careOf := by
  intro h
  have hp : ∀ d ∈ [relayedRequest foreignAgentPublicAddress 100 1,
      relayedRequest otherAgentPublicAddress 100 2],
      getPacketType (d.packet RegistrationRequestPacket.bytes) = .registration ∧
        (processRegistrationRequestPacket (d.packet RegistrationRequestPacket.bytes)).1 =
          .ok d.request := by decide +kernel
  obtain ⟨hp₁, hreg₁⟩ := hp _ (List.mem_cons_self ..)
  obtain ⟨hp₂, hreg₂⟩ := hp _ (List.mem_cons_of_mem _ (List.mem_cons_self ..))
  have hrun := (Machine.Run.nil.snoc (step_push_of_decodes homeAgent ⟨0, 0⟩ 1 hp₁ hreg₁)).snoc
    (step_push_of_decodes _ ⟨0, 0⟩ 1 hp₂ hreg₂)
  have hlast := h _ _ hrun _ (List.mem_append_right _ (List.mem_singleton_self _))
  have hlookup := (hlast _ ⟨_, _, _, rfl, hp₂, hreg₂, by decide⟩ (by decide) rfl).lookup
  exact absurd hlookup (by decide)

end Examples

end MobileIPHomeAgent

end MobileIP
