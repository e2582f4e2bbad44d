import MobileIP.Proofs.HomeAgent
import MobileIP.Spec.Definitions

/-! The bindings of the home agent after the node has come home. -/

namespace MobileIP

structure MobileIPHomeAgent.Unbound (ha : MobileIPHomeAgent) (h : IPAddress) : Prop where
  lookup : MobilityBindingList.isMobileBinded h ha.mobilityBindings = false
  plain : ∀ p ip p', processIPHeader p = (.ok ip, p') → ip.destination = h →
    MobileIPEncapsulator.push ha p = .ok [(0, p')]

namespace MobileIPHomeAgent

variable {ha : MobileIPHomeAgent} {h : IPAddress}

theorem unbound_iff : ha.Unbound h ↔ ∀ it ∈ ha.mobilityBindings, it.homeAddress ≠ h := by
  rw [← MobilityBindingList.isMobileBinded_eq_false_iff]
  refine ⟨fun hu => hu.lookup, fun hb => ⟨hb, ?_⟩⟩
  intro p ip p' hp hdest
  subst hdest
  simp only [MobileIPEncapsulator.push, hp, hb, Bool.false_eq_true, if_false]

/-- A deregistration leaves no binding exactly when it covers all there are. -/
theorem unbound_after_deregistration_iff {registration : RegistrationRequest}
    (hl : registration.lifetime = 0) :
    ({ ha with mobilityBindings := ha.bindingsAfter registration } : MobileIPHomeAgent).Unbound
        registration.home ↔
      registration.careOf = registration.home ∨ ∀ it ∈ ha.mobilityBindings,
        it.homeAddress = registration.home → it.careOfAddress = registration.careOf := by
  rw [unbound_iff]
  simp only [bindingsAfter, if_pos hl]
  split_ifs with hc
  · simp [MobilityBindingList.removeAll_eq, hc]
  · simp only [MobilityBindingList.remove_eq, List.mem_filter, hc, false_or]
    refine forall_congr' fun it => ?_
    simp only [Bool.not_eq_true', decide_eq_false_iff_not, ne_eq]
    tauto

theorem Unbound.bindingsAfter {registration : RegistrationRequest} (hu : ha.Unbound h)
    (hno : registration.home = h → registration.lifetime = 0) :
    ({ ha with mobilityBindings := ha.bindingsAfter registration } : MobileIPHomeAgent).Unbound
      h := by
  rw [unbound_iff] at hu ⊢
  simp only [MobileIPHomeAgent.bindingsAfter]
  split_ifs with hl hc
  · rw [MobilityBindingList.removeAll_eq]
    exact fun it hit => hu it (List.mem_of_mem_filter hit)
  · rw [MobilityBindingList.remove_eq]
    exact fun it hit => hu it (List.mem_of_mem_filter hit)
  · intro it hit
    rcases MobilityBindingList.eq_or_mem_of_mem_add hit with heq | hold
    · rw [heq]
      exact fun hh => hl (hno hh)
    · exact hu it hold

theorem Unbound.runTimer (hu : ha.Unbound h) : ha.runTimer.Unbound h := by
  rw [unbound_iff] at hu ⊢
  simp only [MobileIPHomeAgent.runTimer, MobilityBindingList.decreaseLifetime_eq,
    List.mem_filterMap]
  intro it' hit'
  obtain ⟨it, hit, hcount⟩ := hit'
  rw [(Prod.mk.inj (MobilityBindingList.countDown_key hcount)).1]
  exact hu it hit

end MobileIPHomeAgent

namespace Network

variable {ι : Type} [DecidableEq ι] {routes : Routes ι} {net₀ net : Network ι}
  {tr pre post : Machine.Trace (Network ι) (NetEvent ι) Emission}
  {x z : Machine.Entry (Network ι) (NetEvent ι) Emission}

/-- The step in which the request arrives at the home agent and is answered with code 0. -/
structure Accepts (x : Machine.Entry (Network ι) (NetEvent ι) Emission)
    (d : Datagram RegistrationRequestPacket) : Prop where
  delivery : ∃ ctx k port, x.event = .deliver ctx k ∧
    x.before.flights[k]? = some (.requestToHA port d)
  accepted : ∃ e ∈ x.out, e.code = some 0

/-- The step in which the node, on connecting to its home agent, sends the request. -/
structure SendsHome (z : Machine.Entry (Network ι) (NetEvent ι) Emission)
    (d : Datagram RegistrationRequestPacket) : Prop where
  call : ∃ ctx careOfAddress lifetime, z.event =
    .reregister ctx z.before.MN.homeAgentPrivateAddress careOfAddress lifetime
  sent : ⟨0, .request d⟩ ∈ z.out

theorem SendsHome.request {d : Datagram RegistrationRequestPacket} (h : SendsHome z d)
    (hz : z.before.step routes z.event = .ok (z.after, z.out)) :
    d.request.lifetime = 0 ∧ d.request.home = z.before.MN.homeAddress ∧
      d.request.careOf = z.before.MN.connection.careOfAddress := by
  obtain ⟨⟨ctx, careOfAddress, lifetime, hev⟩, hsent⟩ := h
  rw [hev] at hz
  simp only [step, Network.reregister, MobileIPNode.reregister, if_true, MobileIPNode.deregister,
    MobileIPNode.sendRequest, Except.ok.injEq, Prod.mk.injEq] at hz
  rw [← hz.2, List.mem_singleton, Emission.mk.injEq, RegistrationMessage.request.injEq] at hsent
  rw [hsent.2]
  exact ⟨rfl, rfl, rfl⟩

theorem Accepts.after_HA {d : Datagram RegistrationRequestPacket} (h : Accepts x d)
    (hx : x.before.step routes x.event = .ok (x.after, x.out)) :
    x.after.HA =
      { x.before.HA with mobilityBindings := x.before.HA.bindingsAfter d.request } := by
  obtain ⟨⟨ctx, k, port, hev, hk⟩, e, he, hcode⟩ := h
  simp only [hev, step, deliver, hk, receive, Except.ok.injEq, Prod.mk.injEq] at hx
  have hadm : x.before.HA.Admits d.request := by
    rw [← MobileIPHomeAgent.accepted_iff_admits _ _ ctx.clock port, hx.2]
    exact ⟨e, he, hcode⟩
  rw [← hx.1, MobileIPHomeAgent.processRegistration_of_admits hadm]

theorem receive_HA {net' : Network ι} {ctx : NetContext} {flight : Flight ι} {out : List Emission}
    (h : net.receive routes ctx flight = .ok (net', out)) :
    net'.HA = net.HA ∨ ∃ port d, flight = .requestToHA port d ∧
      (∃ e ∈ out, e.code = some 0) ∧
      net'.HA = { net.HA with mobilityBindings := net.HA.bindingsAfter d.request } := by
  cases flight with
  | requestToHA port d =>
    simp only [receive, Except.ok.injEq, Prod.mk.injEq] at h
    by_cases hadm : net.HA.Admits d.request
    · refine Or.inr ⟨port, d, rfl, ?_, ?_⟩
      · rw [← h.2]
        exact (MobileIPHomeAgent.accepted_iff_admits _ _ _ _).2 hadm
      · rw [← h.1, MobileIPHomeAgent.processRegistration_of_admits hadm]
    · left
      rw [← h.1]
      exact (MobileIPHomeAgent.processRegistration_of_not_admits hadm ctx.clock port).1
  | requestToFA i d =>
    simp only [receive, Except.ok.injEq, Prod.mk.injEq] at h
    exact Or.inl (by rw [← h.1])
  | replyToFA i d =>
    simp only [receive, Except.ok.injEq, Prod.mk.injEq] at h
    exact Or.inl (by rw [← h.1])
  | replyToMN d =>
    simp only [receive] at h
    split at h
    · cases h
    · cases h; exact Or.inl rfl

theorem step_HA (hx : x.before.step routes x.event = .ok (x.after, x.out)) :
    x.after.HA = x.before.HA ∨ x.after.HA = x.before.HA.runTimer ∨
      ∃ d, Accepts x d ∧ x.after.HA =
        { x.before.HA with mobilityBindings := x.before.HA.bindingsAfter d.request } := by
  cases hev : x.event with
  | reregister ctx address careOfAddress lifetime =>
    simp only [hev, step, reregister, Except.ok.injEq, Prod.mk.injEq] at hx
    exact Or.inl (by rw [← hx.1])
  | deliver ctx k =>
    simp only [hev, step, deliver] at hx
    split at hx
    · rw [Except.ok.injEq, Prod.mk.injEq] at hx
      exact Or.inl (by rw [← hx.1])
    · next flight hk =>
      rcases receive_HA hx with heq | ⟨port, d, rfl, hcode, heq⟩
      · exact Or.inl heq
      · exact Or.inr (Or.inr ⟨d, ⟨⟨ctx, k, port, hev, hk⟩, hcode⟩, heq⟩)
  | tickMN ctx =>
    simp only [hev, step, Except.ok.injEq, Prod.mk.injEq] at hx
    exact Or.inl (by rw [← hx.1])
  | tickFA i clock =>
    simp only [hev, step, Except.ok.injEq, Prod.mk.injEq] at hx
    exact Or.inl (by rw [← hx.1])
  | tickHA =>
    simp only [hev, step, Except.ok.injEq, Prod.mk.injEq] at hx
    exact Or.inr (Or.inl (by rw [← hx.1]))

theorem unbound_step {h : IPAddress}
    (hx : x.before.step routes x.event = .ok (x.after, x.out))
    (hno : ∀ d, Accepts x d → d.request.home = h → d.request.lifetime = 0)
    (hu : x.before.HA.Unbound h) : x.after.HA.Unbound h := by
  rcases step_HA hx with heq | heq | ⟨d, hacc, heq⟩
  · rw [heq]; exact hu
  · rw [heq]; exact hu.runTimer
  · rw [heq]; exact hu.bindingsAfter (hno d hacc)

/-- After an accepted homecoming, and until a registration is accepted again, the node is not bound:
this holds exactly when all the bindings that the home agent holds as the request arrives are to the
care-of address the node remembered as it sent it. -/
theorem homecoming_unbinds_iff (hrun : Machine.Run (Network.step routes) net₀ tr net)
    (htr : tr = pre ++ x :: post) {d : Datagram RegistrationRequestPacket} (hz : z ∈ pre)
    (hsent : SendsHome z d) (hacc : Accepts x d) :
    (∀ mid rest, post = mid ++ rest →
        (∀ y ∈ mid, ∀ d', Accepts y d' → d'.request.home = z.before.MN.homeAddress →
          d'.request.lifetime = 0) →
        ∀ y ∈ x :: mid, y.after.HA.Unbound z.before.MN.homeAddress) ↔
      z.before.MN.connection.careOfAddress = z.before.MN.homeAddress ∨
        ∀ it ∈ x.before.HA.mobilityBindings, it.homeAddress = z.before.MN.homeAddress →
          it.careOfAddress = z.before.MN.connection.careOfAddress := by
  subst htr
  have hxstep := hrun.step_mem x (by simp)
  obtain ⟨hl, hhome, hcareOf⟩ := hsent.request (hrun.step_mem z (by simp [hz]))
  rw [← hhome, ← hcareOf, ← MobileIPHomeAgent.unbound_after_deregistration_iff hl,
    ← hacc.after_HA hxstep]
  refine ⟨fun h => h [] post rfl (by simp) x List.mem_cons_self, fun h => ?_⟩
  intro mid rest hpost hno y hy
  rcases List.mem_cons.1 hy with rfl | hy
  · exact h
  · obtain ⟨net₁, hmid⟩ := (hrun.from_entry pre x post rfl).split mid rest hpost
    exact hmid.invariant_after_of (I := fun net => net.HA.Unbound d.request.home) h
      (fun _ hs hC => unbound_step hs hC) hno y hy

section Examples

open Definitions

theorem homecoming_unbinds_single_visit :
    ∃ tr net, Machine.Run (Network.step Definitions.routes) network tr net ∧ net.flights = [] ∧
      ∃ pre x post z d, tr = pre ++ x :: post ∧ z ∈ pre ∧ SendsHome z d ∧ Accepts x d ∧
        ∀ mid rest, post = mid ++ rest →
          (∀ y ∈ mid, ∀ d', Accepts y d' → d'.request.home = z.before.MN.homeAddress →
            d'.request.lifetime = 0) →
          ∀ y ∈ x :: mid, y.after.HA.Unbound z.before.MN.homeAddress := by
  obtain ⟨r, hexec⟩ : ∃ r, r = Machine.exec (step Definitions.routes) network
    (visit 1 foreignAgentPrivateAddress foreignAgentPublicAddress ++ comeHome 2) := ⟨_, rfl⟩
  have hrun : Machine.Run (step Definitions.routes) network r.1 r.2 :=
    hexec ▸ Machine.Run.of_exec network _
  have hquiet : r.2.flights = [] := by rw [hexec]; decide +kernel
  have hlength : r.1.length = 8 := by rw [hexec]; decide +kernel
  obtain ⟨hsent, hacc, hbindings⟩ :
      SendsHome r.1[5] (deregistrationOf foreignAgentPublicAddress 2) ∧
      Accepts r.1[6] (deregistrationOf foreignAgentPublicAddress 2) ∧
      ∀ it ∈ r.1[6].before.HA.mobilityBindings, it.homeAddress = r.1[5].before.MN.homeAddress →
        it.careOfAddress = r.1[5].before.MN.connection.careOfAddress := by
    subst hexec
    refine ⟨⟨⟨sendAt 2, homeAgentPrivateAddress, 100, rfl⟩, ?_⟩,
      ⟨⟨handleAt 2, 0, 0, rfl, ?_⟩, ?_⟩, ?_⟩ <;> decide +kernel +revert
  have hcut : r.1 = r.1.take 6 ++ r.1[6] :: r.1.drop 7 := by
    rw [List.getElem_cons_drop, List.take_append_drop]
  have hz : r.1[5] ∈ r.1.take 6 := List.mem_take_iff_getElem.2 ⟨5, by omega, rfl⟩
  exact ⟨r.1, r.2, hrun, hquiet, _, _, _, _, _, hcut, hz, hsent, hacc,
    (homecoming_unbinds_iff hrun hcut hz hsent hacc).2 (Or.inr hbindings)⟩

/-- A node that has been to two foreign agents stays bound to the first of them. -/
theorem homecoming_leaves_binding :
    ¬ ∀ tr net, Machine.Run (Network.step Definitions.routes) network tr net → net.flights = [] →
      ∀ pre x post z d, tr = pre ++ x :: post → z ∈ pre → SendsHome z d → Accepts x d →
        ∀ mid rest, post = mid ++ rest →
          (∀ y ∈ mid, ∀ d', Accepts y d' → d'.request.home = z.before.MN.homeAddress →
            d'.request.lifetime = 0) →
          ∀ y ∈ x :: mid, y.after.HA.Unbound z.before.MN.homeAddress := by
  intro h
  obtain ⟨r, hexec⟩ : ∃ r, r = Machine.exec (step Definitions.routes) network
    (visit 1 foreignAgentPrivateAddress foreignAgentPublicAddress ++
      (visit 2 otherAgentPrivateAddress otherAgentPublicAddress ++ comeHome 3)) := ⟨_, rfl⟩
  have hrun : Machine.Run (step Definitions.routes) network r.1 r.2 :=
    hexec ▸ Machine.Run.of_exec network _
  have hquiet : r.2.flights = [] := by rw [hexec]; decide +kernel
  have hlength : r.1.length = 13 := by rw [hexec]; decide +kernel
  obtain ⟨hsent, hacc, hbound⟩ : SendsHome r.1[10] (deregistrationOf otherAgentPublicAddress 3) ∧
      Accepts r.1[11] (deregistrationOf otherAgentPublicAddress 3) ∧
      MobilityBindingList.isMobileBinded r.1[10].before.MN.homeAddress
        r.1[11].after.HA.mobilityBindings = true := by
    subst hexec
    refine ⟨⟨⟨sendAt 3, homeAgentPrivateAddress, 100, rfl⟩, ?_⟩,
      ⟨⟨handleAt 3, 0, 0, rfl, ?_⟩, ?_⟩, ?_⟩ <;> decide +kernel +revert
  have hcut : r.1 = r.1.take 11 ++ r.1[11] :: r.1.drop 12 := by
    rw [List.getElem_cons_drop, List.take_append_drop]
  have hz : r.1[10] ∈ r.1.take 11 := List.mem_take_iff_getElem.2 ⟨10, by omega, rfl⟩
  have hu := h r.1 r.2 hrun hquiet _ _ _ _ _ hcut hz hsent hacc [] _ rfl (by simp) _
    List.mem_cons_self
  rw [hu.lookup] at hbound
  exact Bool.false_ne_true hbound

end Examples

end Network

end MobileIP
