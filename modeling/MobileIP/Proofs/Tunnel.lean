import MobileIP.Proofs.Agreement
import MobileIP.Proofs.Encapsulation

/-! The data path of a registered node, for as long as the registration lasts. -/

namespace MobileIP

def MobileIPForeignAgent.runTimers (fa : MobileIPForeignAgent) (clocks : List (ℕ → Clock)) :
    MobileIPForeignAgent :=
  clocks.foldl (fun fa clock => (fa.runTimer clock).1) fa

theorem MobileIPForeignAgent.runTimers_visitors (fa : MobileIPForeignAgent)
    (clocks : List (ℕ → Clock)) : (fa.runTimers clocks).visitors =
      VisitorList.decreaseLifetime^[clocks.length] fa.visitors := by
  induction clocks generalizing fa with
  | nil => rfl
  | cons clock clocks ih =>
    rw [List.length_cons, Function.iterate_succ_apply]
    exact ih (fa.runTimer clock).1

theorem MobileIPHomeAgent.iterate_runTimer (ha : MobileIPHomeAgent) (n : ℕ) :
    runTimer^[n] ha = { ha with
      mobilityBindings := MobilityBindingList.decreaseLifetime^[n] ha.mobilityBindings } := by
  induction n generalizing ha with
  | zero => rfl
  | succ n ih => rw [Function.iterate_succ_apply, ih]; rfl

/-- The request of a node that is not known to either agent, for a lifetime both accept. -/
structure Registrable (fa : MobileIPForeignAgent) (ha : MobileIPHomeAgent)
    (registration : RegistrationRequest) : Prop where
  passes : fa.Passes registration
  homeAgent : registration.homeAgent = ha.publicAddress
  identification : registration.identification ≠ 0
  fresh : ∀ x ∈ fa.requests, x.identification ≠ registration.identification
  pos : registration.lifetime ≠ 0
  lt : registration.lifetime.toNat < 65535
  maxFA : registration.lifetime.toNat ≤ fa.maxAcceptedLifetime.toNat
  maxHA : registration.lifetime.toNat ≤ ha.maxAcceptedLifetime.toNat
  noBinding : ∀ it ∈ ha.mobilityBindings, it.homeAddress ≠ registration.home
  noVisitor : ∀ v ∈ fa.visitors, v.MNhome ≠ registration.home
  sourcePort : fa.sourcePort = 3581

section Exchange

variable {fa : MobileIPForeignAgent} {ha : MobileIPHomeAgent} {registration : RegistrationRequest}

theorem Registrable.binds (hr : Registrable fa ha registration) (clock₁ clock₂ : Clock) :
    ∃ ha' answer, ha.processRegistration clock₂ 1 (fa.relayedDatagram clock₁ registration).request =
        (ha', [⟨1, .reply answer⟩]) ∧
      ha'.publicAddress = ha.publicAddress ∧
      ha'.mobilityBindings.filter (fun it => decide (it.homeAddress = registration.home)) =
        [⟨registration.home, fa.careOfAddress, registration.lifetime⟩] ∧
      answer.reply = Network.grant registration.lifetime registration.home ha.publicAddress
        ⟨434, fa.sourcePort⟩ ⟨ha.publicAddress, fa.careOfAddress⟩ registration.identification := by
  have hport : fa.sourcePort.toNat ≤ 65535 := by rw [hr.sourcePort]; decide
  have hrequest := fa.relayedDatagram_request hr.lt.le hport hr.identification clock₁
  rw [hr.homeAgent] at hrequest
  have hadm : ha.Admits (fa.relayedDatagram clock₁ registration).request := by
    rw [hrequest]
    exact ⟨rfl, ⟨rfl, rfl⟩, ⟨rfl, rfl, rfl, rfl⟩, rfl, Or.inr rfl⟩
  have hgranted : ha.lifetimeGranted (fa.relayedDatagram clock₁ registration).request =
      registration.lifetime := by
    refine UInt32.toNat_inj.1 ?_
    rw [hrequest, MobileIPHomeAgent.lifetimeGranted, UInt32.toNat_min]
    exact min_eq_left hr.maxHA
  have hprocess := MobileIPHomeAgent.processRegistration_of_admits hadm clock₂ 1
  rw [MobileIPHomeAgent.sendReply_public (by rw [hgranted]; exact hr.pos)] at hprocess
  refine ⟨_, _, hprocess, rfl, ?_, ?_⟩
  · have hbindings : ha.bindingsAfter (fa.relayedDatagram clock₁ registration).request =
        MobilityBindingList.add registration.home fa.careOfAddress registration.lifetime
          ha.mobilityBindings := by
      refine (if_neg (by rw [hrequest]; exact hr.pos)).trans ?_
      rw [← MobileIPHomeAgent.lifetimeGranted, hgranted, hrequest]
      rfl
    rw [hbindings]
    exact MobilityBindingList.filter_add hr.noBinding _ _
  · rw [MobileIPHomeAgent.acceptance_reply (by rw [hgranted]; exact hr.lt.le)
      (by rw [hrequest]; exact hport), hgranted, hrequest]
    rfl

theorem Registrable.enters (hr : Registrable fa ha registration) (ttl : UInt32)
    {reply : RegistrationReply} {ip : IPHeader}
    (hreply : reply = Network.grant registration.lifetime registration.home ha.publicAddress
      ⟨434, fa.sourcePort⟩ ip registration.identification) (clock : Clock) :
    ∃ fa' out, { fa with
        requests := fa.requests ++ [fa.pendingItem ttl registration] }.relayReply clock reply =
          (fa', out) ∧
      ∃ v ∈ fa'.visitors, VisitorList.Matches registration.home ha.publicAddress v ∧
        v.requestedLifetime = registration.lifetime ∧
        v.remainingLifetime = registration.lifetime := by
  let fa₁ : MobileIPForeignAgent :=
    { fa with requests := fa.requests ++ [fa.pendingItem ttl registration] }
  have hremove : RequestList.remove reply.identification fa₁.requests =
      .ok (fa.pendingItem ttl registration, fa.requests) := by
    rw [hreply]
    exact RequestList.remove_append_last rfl hr.fresh
  have hcheck : fa₁.checkReplyValidity reply (fa.pendingItem ttl registration) = true := by
    simp [MobileIPForeignAgent.checkReplyValidity, MobileIPForeignAgent.pendingItem, hreply,
      Network.grant, fa₁]
  have hnew : VisitorList.has reply.home reply.homeAgent fa₁.visitors = false := by
    rw [hreply, VisitorList.has_eq_false_iff]
    exact fun v hv hm => hr.noVisitor v hv hm.1
  have hlife : fa₁.visitorLifetime reply = registration.lifetime := by
    refine UInt32.toNat_inj.1 ?_
    rw [hreply, MobileIPForeignAgent.visitorLifetime, UInt32.toNat_min]
    exact min_eq_left hr.maxFA
  refine ⟨_, _, MobileIPForeignAgent.relayReply_of_pending hremove hcheck clock,
    fa₁.newVisitor reply (fa.pendingItem ttl registration), ?_, ?_, hlife, hlife⟩
  · rw [MobileIPForeignAgent.updateVisitors_enter (Or.inl (by rw [hreply]; rfl)) hnew]
    exact List.mem_append_right _ (List.mem_singleton_self _)
  · rw [hreply]
    exact ⟨rfl, rfl⟩

theorem Registrable.exchange (hr : Registrable fa ha registration)
    (clock₁ clock₂ clock₃ : Clock) (ttl : UInt32) :
    ∃ fa₁ relayed ha' answer fa' out,
      fa.relayRequest clock₁ ttl registration = (fa₁, [⟨1, .request relayed⟩]) ∧
      ha.processRegistration clock₂ 1 relayed.request = (ha', [⟨1, .reply answer⟩]) ∧
      fa₁.relayReply clock₃ answer.reply = (fa', out) ∧
      ha'.publicAddress = ha.publicAddress ∧
      ha'.mobilityBindings.filter (fun it => decide (it.homeAddress = registration.home)) =
        [⟨registration.home, fa.careOfAddress, registration.lifetime⟩] ∧
      ∃ v ∈ fa'.visitors, VisitorList.Matches registration.home ha.publicAddress v ∧
        v.requestedLifetime = registration.lifetime ∧
        v.remainingLifetime = registration.lifetime := by
  have hrelay := MobileIPForeignAgent.relayRequest_of_passes hr.passes hr.maxFA clock₁ ttl
  obtain ⟨ha', answer, hprocess, hpublic, hbindings, hreply⟩ := hr.binds clock₁ clock₂
  obtain ⟨fa', out, hconfirm, hvisitor⟩ := hr.enters ttl hreply clock₃
  exact ⟨_, _, ha', answer, fa', out, hrelay, hprocess, hconfirm, hpublic, hbindings, hvisitor⟩

end Exchange

/-- The packet goes through the tunnel between the two agents, and comes out of it as it was. -/
def Delivers (ha : MobileIPHomeAgent) (fa : MobileIPForeignAgent) (careOf : IPAddress)
    (p : Packet) : Prop :=
  ∃ q, MobileIPEncapsulator.push ha p = .ok [(1, q)] ∧ Tunnels ha.publicAddress careOf p q ∧
    ∀ q', Forwarded q q' → ∃ r, MobileIPDecapsulator.push fa q' = [(1, r)] ∧
      Restored p r (q'.u8 (q'.data + 8))

/-- While a registration lasts, the packets for the node are delivered through the tunnel, and
afterwards they are left alone: this holds exactly of the packets whose checksum is not 65535. -/
theorem delivered_while_registered_iff {fa : MobileIPForeignAgent} {ha : MobileIPHomeAgent}
    {registration : RegistrationRequest} (hr : Registrable fa ha registration)
    (clock₁ clock₂ clock₃ : Clock) (ttl : UInt32) :
    ∃ fa₁ relayed ha' answer fa' out,
      fa.relayRequest clock₁ ttl registration = (fa₁, [⟨1, .request relayed⟩]) ∧
      ha.processRegistration clock₂ 1 relayed.request = (ha', [⟨1, .reply answer⟩]) ∧
      fa₁.relayReply clock₃ answer.reply = (fa', out) ∧
      ∀ n clocks p, clocks.length < registration.lifetime.toNat →
        DataPacket registration.home p →
        (((n < registration.lifetime.toNat →
            Delivers (MobileIPHomeAgent.runTimer^[n] ha') (fa'.runTimers clocks)
              fa.careOfAddress p) ∧
          (registration.lifetime.toNat ≤ n →
            MobileIPEncapsulator.push (MobileIPHomeAgent.runTimer^[n] ha') p = .ok [(0, p)])) ↔
          p.u16 (p.data + 10) ≠ 65535) := by
  obtain ⟨fa₁, relayed, ha', answer, fa', out, hrelay, hprocess, hconfirm, hpublic, hbinding, v, hv,
    hvisitor, hrequested, hremaining⟩ := hr.exchange clock₁ clock₂ clock₃ ttl
  refine ⟨fa₁, relayed, ha', answer, fa', out, hrelay, hprocess, hconfirm, ?_⟩
  intro n clocks p hclocks hp
  have hit : MobilityBindingList.Expiring registration.home fa.careOfAddress
      ⟨registration.home, fa.careOfAddress, registration.lifetime⟩ :=
    ⟨rfl, rfl, Nat.pos_of_ne_zero (toNat_ne_zero.2 hr.pos), hr.lt⟩
  have hexpiring : VisitorList.Expiring registration.home ha.publicAddress v := by
    refine ⟨hvisitor, ?_, ?_⟩
    · intro heq
      have hlt := hr.lt
      rw [← hrequested, heq] at hlt
      exact absurd hlt (by decide)
    · rw [hremaining]
      exact hit.pos
  rw [MobileIPHomeAgent.iterate_runTimer]
  by_cases hsum : p.u16 (p.data + 10) = 65535
  · refine iff_of_false ?_ (not_not.2 hsum)
    intro hdelivers
    by_cases hn : n < registration.lifetime.toNat
    · obtain ⟨q, hq, -⟩ := hdelivers.1 hn
      rw [encapsulator_push_all_ones hp hsum] at hq
      cases hq
    · have hplain := hdelivers.2 (by omega)
      rw [encapsulator_push_all_ones hp hsum] at hplain
      cases hplain
  · refine iff_of_true ⟨fun hn => ?_, fun hn => ?_⟩ hsum
    · obtain ⟨hbound, hcareOf⟩ := MobilityBindingList.bound_of_ticks_lt hbinding hit hn
      refine ⟨buildTunnelIPPacket p ha'.publicAddress fa.careOfAddress, ?_, ?_, ?_⟩
      · simp only [encapsulator_push hp hsum, hbound, hcareOf, if_true]
      · exact buildTunnelIPPacket_tunnels hp _ _
      · intro q' hq'
        refine decapsulates hp (buildTunnelIPPacket_tunnels hp _ _) hq' ?_
        rw [MobileIPForeignAgent.runTimers_visitors, hpublic]
        exact VisitorList.has_of_ticks_lt hv hexpiring (by rw [hremaining]; exact hclocks)
    · have hnot := MobilityBindingList.not_bound_of_ticks_le hbinding hit hn
      simp only [encapsulator_push hp hsum, hnot, Bool.false_eq_true, if_false]

section Examples

open Definitions

theorem registrable_definitions :
    Registrable foreignAgent homeAgent (requestFrom 100 1).request where
  passes := ⟨rfl, ⟨rfl, rfl⟩, rfl, ⟨rfl, rfl⟩, by decide, ⟨rfl, rfl⟩⟩
  homeAgent := rfl
  identification := by decide
  fresh := by simp [foreignAgent]
  pos := by decide
  lt := by decide
  maxFA := by decide
  maxHA := by decide
  noBinding := by simp [homeAgent]
  noVisitor := by simp [foreignAgent]
  sourcePort := rfl

theorem dataPacket_valid {identification sum : ℕ}
    (h : (dataPacket identification sum).u16 10 ≠ 0 ∧
      clickInCksum ((dataPacket identification sum).slice 0 20) = 0) :
    DataPacket (requestFrom 100 1).request.home (dataPacket identification sum) where
  network := rfl
  header := rfl
  long := by change 20 ≤ 28; decide
  short := by change 28 ≤ 65515; decide
  ttl := by change (64 : UInt8) ≠ 0; decide
  checksum := h.1
  verifies := h.2
  destination := rfl

theorem delivered_while_registered_first :
    ∃ fa₁ relayed ha' answer fa' out,
      foreignAgent.relayRequest ⟨0, 0⟩ 0 (requestFrom 100 1).request =
        (fa₁, [⟨1, .request relayed⟩]) ∧
      homeAgent.processRegistration ⟨0, 0⟩ 1 relayed.request = (ha', [⟨1, .reply answer⟩]) ∧
      fa₁.relayReply ⟨0, 0⟩ answer.reply = (fa', out) ∧
      Delivers ha' fa' foreignAgentPublicAddress (dataPacket 0 32503) := by
  obtain ⟨fa₁, relayed, ha', answer, fa', out, hrelay, hprocess, hconfirm, hdelivers⟩ :=
    delivered_while_registered_iff registrable_definitions ⟨0, 0⟩ ⟨0, 0⟩ ⟨0, 0⟩ 0
  have hp : DataPacket (requestFrom 100 1).request.home (dataPacket 0 32503) :=
    dataPacket_valid (by decide)
  have hfirst := ((hdelivers 0 [] _ (by decide) hp).2 (by decide)).1 (by decide)
  exact ⟨fa₁, relayed, ha', answer, fa', out, hrelay, hprocess, hconfirm, hfirst⟩

/-- A packet whose checksum verifies and is 65535 ends in an exception. -/
theorem all_ones_not_delivered :
    ¬ ∀ fa ha registration, Registrable fa ha registration → ∀ clock₁ clock₂ clock₃ ttl,
      ∃ fa₁ relayed ha' answer fa' out,
        fa.relayRequest clock₁ ttl registration = (fa₁, [⟨1, .request relayed⟩]) ∧
        ha.processRegistration clock₂ 1 relayed.request = (ha', [⟨1, .reply answer⟩]) ∧
        fa₁.relayReply clock₃ answer.reply = (fa', out) ∧
        ∀ n clocks p, clocks.length < registration.lifetime.toNat →
          DataPacket registration.home p →
          (n < registration.lifetime.toNat →
            Delivers (MobileIPHomeAgent.runTimer^[n] ha') (fa'.runTimers clocks)
              fa.careOfAddress p) ∧
          (registration.lifetime.toNat ≤ n →
            MobileIPEncapsulator.push (MobileIPHomeAgent.runTimer^[n] ha') p = .ok [(0, p)]) := by
  intro h
  obtain ⟨_, _, ha', _, _, _, -, -, -, hdelivers⟩ :=
    h foreignAgent homeAgent _ registrable_definitions ⟨0, 0⟩ ⟨0, 0⟩ ⟨0, 0⟩ 0
  have hp : DataPacket (requestFrom 100 1).request.home (dataPacket 63358 65535) :=
    dataPacket_valid (by decide)
  obtain ⟨q, hq, -⟩ := (hdelivers 0 [] _ (by decide) hp).1 (by decide)
  rw [encapsulator_push_all_ones hp (by decide)] at hq
  cases hq

end Examples

end MobileIP
