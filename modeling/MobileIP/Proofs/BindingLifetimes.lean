import MobileIP.Proofs.HomeAgent

/-! The lifetimes in the binding list of a home agent, over every run of it. -/

namespace MobileIP

structure MobilityBindingListItem.InRange (it : MobilityBindingListItem) : Prop where
  pos : 1 ≤ it.remainingLifetime.toNat
  bound : it.remainingLifetime.toNat ≤ 65535

namespace MobileIPHomeAgent

variable {ha ha₀ : MobileIPHomeAgent} {registration : RegistrationRequest}
  {it it' : MobilityBindingListItem}

/-- The step in which a binding is given no lifetime: a request for one is admitted while none is
accepted. -/
def StoresZero (x : Machine.Entry MobileIPHomeAgent HAEvent Emission) : Prop :=
  ∃ clock port registration, Receives x.event clock port registration ∧
    x.before.Admits registration ∧ registration.lifetime ≠ 0 ∧ x.before.maxAcceptedLifetime = 0

theorem lifetimeGranted_eq_zero_iff (hl : registration.lifetime ≠ 0) :
    ha.lifetimeGranted registration = 0 ↔ ha.maxAcceptedLifetime = 0 := by
  have hl := toNat_ne_zero.2 hl
  simp only [← UInt32.toNat_inj, lifetimeGranted, UInt32.toNat_min, UInt32.toNat_zero]
  omega

theorem mem_bindingsAfter (h : it ∈ ha.bindingsAfter registration) :
    it ∈ ha.mobilityBindings ∨ (registration.lifetime ≠ 0 ∧
      it = ⟨registration.home, registration.careOf, ha.lifetimeGranted registration⟩) := by
  unfold bindingsAfter at h
  split_ifs at h with h0 hc
  · rw [MobilityBindingList.removeAll_eq] at h
    exact Or.inl (List.mem_filter.1 h).1
  · rw [MobilityBindingList.remove_eq] at h
    exact Or.inl (List.mem_filter.1 h).1
  · rcases MobilityBindingList.eq_or_mem_of_mem_add h with heq | hmem
    · exact Or.inr ⟨h0, heq⟩
    · exact Or.inl hmem

theorem bindingsAfter_inRange_iff (h : ∀ it ∈ ha.mobilityBindings, it.InRange)
    (hl : registration.lifetime.toNat ≤ 65535) :
    (∀ it ∈ ha.bindingsAfter registration, it.InRange) ↔
      ¬ (registration.lifetime ≠ 0 ∧ ha.maxAcceptedLifetime = 0) := by
  have hmin : (ha.lifetimeGranted registration).toNat =
      min registration.lifetime.toNat ha.maxAcceptedLifetime.toNat := UInt32.toNat_min _ _
  constructor
  · intro hin hzero
    obtain ⟨h0, hmax⟩ := hzero
    have hmem : ⟨registration.home, registration.careOf, ha.lifetimeGranted registration⟩ ∈
        ha.bindingsAfter registration := by
      rw [bindingsAfter, if_neg h0]
      exact MobilityBindingList.mem_add _ _ _ _
    have hpos := (hin _ hmem).pos
    simp [(lifetimeGranted_eq_zero_iff h0).2 hmax] at hpos
  · intro hgood it hit
    rcases mem_bindingsAfter hit with hit | ⟨h0, rfl⟩
    · exact h it hit
    · have hne : ha.lifetimeGranted registration ≠ 0 := fun hzero =>
        hgood ⟨h0, (lifetimeGranted_eq_zero_iff h0).1 hzero⟩
      have hpos := toNat_ne_zero.2 hne
      exact ⟨by dsimp only; omega, by dsimp only; omega⟩

theorem countDown_inRange (h : it.InRange) (hc : MobilityBindingList.countDown it = some it') :
    it'.InRange ∧ (it.remainingLifetime ≠ 65535 →
      it'.remainingLifetime.toNat + 1 = it.remainingLifetime.toNat) := by
  obtain ⟨hpos, hbound⟩ := h
  unfold MobilityBindingList.countDown at hc
  split_ifs at hc with hinf hne
  · cases hc
    exact ⟨⟨hpos, hbound⟩, fun hfin => absurd hinf hfin⟩
  · cases hc
    rcases pred_cases hpos with ⟨hzero, -⟩ | ⟨-, hpred, hsucc⟩
    · exact absurd hzero hne
    · exact ⟨⟨hpred, by dsimp only; omega⟩, fun _ => hsucc⟩

theorem inRange_step_iff (x : Machine.Entry MobileIPHomeAgent HAEvent Emission)
    (hx : x.before.step x.event = .ok (x.after, x.out))
    (h : ∀ it ∈ x.before.mobilityBindings, it.InRange) :
    (∀ it ∈ x.after.mobilityBindings, it.InRange) ↔ ¬ StoresZero x := by
  rcases step_cases x.before x.event with ⟨clock, port, registration, hrec, heq⟩ | ⟨hev, heq⟩ |
    ⟨ha', hnone, -, heq, hsame⟩
  · rw [heq] at hx
    have hafter : x.after = (x.before.processRegistration clock port registration).1 := by
      rw [Except.ok.inj hx]
    have hstores : StoresZero x ↔ x.before.Admits registration ∧
        (registration.lifetime ≠ 0 ∧ x.before.maxAcceptedLifetime = 0) := by
      refine ⟨fun hz => ?_, fun hz => ⟨clock, port, registration, hrec, hz⟩⟩
      obtain ⟨_, _, registration', hrec', hz⟩ := hz
      obtain rfl := hrec.unique hrec'
      exact hz
    rw [hstores, hafter]
    by_cases hadm : x.before.Admits registration
    · obtain ⟨p, -, -, hread⟩ := hrec
      rw [processRegistration_of_admits hadm, and_iff_right hadm]
      exact bindingsAfter_inRange_iff h (processRegistrationRequestPacket_fields hread).2
    · rw [(processRegistration_of_not_admits hadm clock port).1]
      exact iff_of_true h fun hz => hadm hz.1
  · rw [heq] at hx
    have hafter : x.after = x.before.runTimer := (Prod.mk.inj (Except.ok.inj hx)).1.symm
    refine iff_of_true ?_ ?_
    · rw [hafter, runTimer, MobilityBindingList.decreaseLifetime_eq]
      intro it hit
      obtain ⟨it₀, hit₀, hc⟩ := List.mem_filterMap.1 hit
      exact (countDown_inRange (h it₀ hit₀) hc).1
    · intro hstores
      obtain ⟨_, _, _, ⟨_, hev', -⟩, -⟩ := hstores
      rw [hev] at hev'
      cases hev'
  · rw [heq] at hx
    have hafter : x.after.mobilityBindings = x.before.mobilityBindings := by
      rw [← (Prod.mk.inj (Except.ok.inj hx)).1, hsame]
    refine iff_of_true (by rw [hafter]; exact h) ?_
    intro hstores
    obtain ⟨_, _, _, hrec, -⟩ := hstores
    exact hnone _ _ _ hrec

def Renews (x : Machine.Entry MobileIPHomeAgent HAEvent Emission) (h c : IPAddress) : Prop :=
  ∃ clock port registration, Receives x.event clock port registration ∧
    x.before.Admits registration ∧ registration.lifetime ≠ 0 ∧ registration.home = h ∧
    registration.careOf = c

def ticks (tr : Machine.Trace MobileIPHomeAgent HAEvent Emission) : ℕ :=
  tr.countP fun x => decide (x.event = .runTimer)

theorem mem_after {x : Machine.Entry MobileIPHomeAgent HAEvent Emission}
    (hx : x.before.step x.event = .ok (x.after, x.out))
    (hr : ¬ Renews x it.homeAddress it.careOfAddress) (hit : it ∈ x.after.mobilityBindings) :
    (x.event = .runTimer ∧
        ∃ it₀ ∈ x.before.mobilityBindings, MobilityBindingList.countDown it₀ = some it) ∨
      (x.event ≠ .runTimer ∧ it ∈ x.before.mobilityBindings) := by
  rcases step_cases x.before x.event with ⟨clock, port, registration, hrec, heq⟩ | ⟨hev, heq⟩ |
    ⟨ha', -, hev, heq, hsame⟩
  · rw [heq] at hx
    refine Or.inr ⟨?_, ?_⟩
    · obtain ⟨p, hev, -⟩ := hrec
      simp [hev]
    have hafter : x.after = (x.before.processRegistration clock port registration).1 := by
      rw [Except.ok.inj hx]
    rw [hafter] at hit
    by_cases hadm : x.before.Admits registration
    · rw [processRegistration_of_admits hadm] at hit
      rcases mem_bindingsAfter hit with hit | ⟨h0, rfl⟩
      · exact hit
      · exact absurd ⟨clock, port, registration, hrec, hadm, h0, rfl, rfl⟩ hr
    · rw [(processRegistration_of_not_admits hadm clock port).1] at hit
      exact hit
  · rw [heq] at hx
    rw [← (Prod.mk.inj (Except.ok.inj hx)).1, runTimer,
      MobilityBindingList.decreaseLifetime_eq] at hit
    exact Or.inl ⟨hev, List.mem_filterMap.1 hit⟩
  · rw [heq] at hx
    rw [← (Prod.mk.inj (Except.ok.inj hx)).1, hsame] at hit
    exact Or.inr ⟨hev, hit⟩

/-- The bindings with the addresses of `it` have used up `n` of its lifetime. -/
def UsedUp (it : MobilityBindingListItem) (n : ℕ) (ha : MobileIPHomeAgent) : Prop :=
  ∀ w ∈ ha.mobilityBindings, w.homeAddress = it.homeAddress → w.careOfAddress = it.careOfAddress →
    w.remainingLifetime.toNat + n ≤ it.remainingLifetime.toNat

theorem usedUp_run {s s' : MobileIPHomeAgent}
    {tr : Machine.Trace MobileIPHomeAgent HAEvent Emission}
    (hrun : Machine.Run MobileIPHomeAgent.step s tr s')
    (hin : ∀ x ∈ tr, ∀ w ∈ x.before.mobilityBindings, w.InRange)
    (hr : ∀ x ∈ tr, ¬ Renews x it.homeAddress it.careOfAddress)
    (hlt : it.remainingLifetime.toNat < 65535) (h0 : UsedUp it 0 s) : UsedUp it (ticks tr) s' := by
  refine hrun.counting (C := fun x => (∀ w ∈ x.before.mobilityBindings, w.InRange) ∧
    ¬ Renews x it.homeAddress it.careOfAddress) h0 ?_ fun x hx => ⟨hin x hx, hr x hx⟩
  intro x n hx hC hn w hw hh hc
  obtain ⟨hin, hr⟩ := hC
  rw [← hh, ← hc] at hr
  rcases mem_after hx hr hw with ⟨hev, w₀, hw₀, hcd⟩ | ⟨hev, hw₀⟩
  · obtain ⟨hh₀, hc₀⟩ := Prod.mk.inj (MobilityBindingList.countDown_key hcd)
    have hle := hn w₀ hw₀ (hh₀ ▸ hh) (hc₀ ▸ hc)
    have hfin : w₀.remainingLifetime ≠ 65535 := by
      intro hinf
      rw [hinf] at hle
      change 65535 + n ≤ _ at hle
      omega
    have hsucc := (countDown_inRange (hin w₀ hw₀) hcd).2 hfin
    simp only [hev, decide_true, Bool.toNat_true]
    omega
  · simpa [hev] using hn w hw₀ hh hc

/-- In a run that starts without bindings the lifetimes stay in range, no counter is taken below
zero and every binding that is not set again is gone after its lifetime, exactly when no step of the
run gives a binding a zero. -/
theorem binding_lifetimes_in_range_iff {tr : Machine.Trace MobileIPHomeAgent HAEvent Emission}
    (h0 : ha₀.mobilityBindings = []) (hrun : Machine.Run MobileIPHomeAgent.step ha₀ tr ha) :
    ((∀ x ∈ tr, ∀ it ∈ x.after.mobilityBindings, it.InRange) ∧
      (∀ x ∈ tr, x.event = .runTimer → ∀ it ∈ x.before.mobilityBindings,
        it.remainingLifetime ≠ 65535 → it.remainingLifetime ≠ 0) ∧
      ∀ pre x post, tr = pre ++ x :: post → ∀ it ∈ x.after.mobilityBindings,
        it.remainingLifetime ≠ 65535 →
        (∀ y ∈ post, ¬ Renews y it.homeAddress it.careOfAddress) →
        it.remainingLifetime.toNat ≤ ticks post → ∀ w ∈ ha.mobilityBindings,
          ¬ (w.homeAddress = it.homeAddress ∧ w.careOfAddress = it.careOfAddress)) ↔
      ∀ x ∈ tr, ¬ StoresZero x := by
  have hstart : ∀ it ∈ ha₀.mobilityBindings, it.InRange := by simp [h0]
  have hiff := hrun.always_iff (I := fun s => ∀ it ∈ s.mobilityBindings, it.InRange) hstart
    inRange_step_iff
  rw [← hiff]
  refine ⟨fun h => h.1, fun h => ?_⟩
  obtain ⟨hbefore, hend⟩ := hrun.before_of_after
    (I := fun s => ∀ it ∈ s.mobilityBindings, it.InRange) hstart h
  refine ⟨h, ?_, ?_⟩
  · intro x hx _ it hit _ hzero
    have := (hbefore x hx it hit).pos
    simp [hzero] at this
  · intro pre x post htr it hit hfin hr hticks w hw hkey
    subst htr
    have hx : x ∈ pre ++ x :: post := by simp
    have hnodup : (x.after.mobilityBindings.map fun it =>
        (it.homeAddress, it.careOfAddress)).Nodup := by
      refine bindings_nodup_step ?_ (hrun.step_mem x hx)
      exact Machine.Run.invariant (I := fun s => (s.mobilityBindings.map fun it =>
        (it.homeAddress, it.careOfAddress)).Nodup) (by simp [h0])
        (fun _ _ _ _ => bindings_nodup_step) (hrun.to_entry pre x post rfl)
    have hlt : it.remainingLifetime.toNat < 65535 := by
      have hbound := (h x hx it hit).bound
      have hne : it.remainingLifetime.toNat ≠ 65535 := fun heq =>
        hfin (UInt32.toNat_inj.1 (heq.trans rfl))
      omega
    -- the pairs of addresses are distinct, so the binding with those of `it` is `it`
    have hused : UsedUp it 0 x.after := by
      intro u hu hh hc
      obtain rfl := List.inj_on_of_nodup_map hnodup hu hit (Prod.ext hh hc)
      exact le_rfl
    have hcount := usedUp_run (hrun.from_entry pre x post rfl)
      (fun y hy => hbefore y (by simp [hy])) hr hlt hused w hw hkey.1 hkey.2
    have := (hend w hw).pos
    omega

section Examples

open Definitions

theorem step_runTimer (ha : MobileIPHomeAgent) : ha.step .runTimer = .ok (ha.runTimer, []) := rfl

theorem step_maxLifetime (ha : MobileIPHomeAgent) (value : UInt32) :
    ha.step (.maxLifetime value) = .ok ({ ha with maxAcceptedLifetime := value }, []) := rfl

theorem binding_lifetimes_in_range_one_second :
    ∃ tr ha, Machine.Run MobileIPHomeAgent.step homeAgent tr ha ∧ ticks tr = 1 ∧
      ∀ x ∈ tr, ∀ it ∈ x.after.mobilityBindings, it.InRange := by
  have hrec : Receives (relayedArrives (relayedRequest foreignAgentPublicAddress 1 7)) ⟨0, 0⟩ 1
      (relayedRequest foreignAgentPublicAddress 1 7).request :=
    ⟨_, rfl, by decide +kernel, by decide +kernel⟩
  have hrun := (Machine.Run.nil.snoc (hrec.step homeAgent)).snoc (step_runTimer _)
  refine ⟨_, _, hrun, rfl, ((binding_lifetimes_in_range_iff rfl hrun).2 ?_).1⟩
  simp only [List.nil_append, List.cons_append, List.forall_mem_cons]
  refine ⟨?_, ?_, by simp⟩
  · intro hstores
    obtain ⟨_, _, _, -, -, -, hmax⟩ := hstores
    exact absurd hmax (by decide)
  · intro hstores
    obtain ⟨_, _, _, ⟨_, hev, -⟩, -⟩ := hstores
    cases hev

/-- A home agent whose operator has set the limit to zero binds a node for no time at all. -/
theorem binding_lifetime_zero :
    ¬ ∀ tr ha, Machine.Run MobileIPHomeAgent.step homeAgent tr ha →
      ∀ x ∈ tr, ∀ it ∈ x.after.mobilityBindings, it.InRange := by
  intro h
  have hrec : Receives (relayedArrives (relayedRequest foreignAgentPublicAddress 100 7)) ⟨0, 0⟩ 1
      (relayedRequest foreignAgentPublicAddress 100 7).request :=
    ⟨_, rfl, by decide +kernel, by decide +kernel⟩
  have hrun := (Machine.Run.nil.snoc (step_maxLifetime homeAgent 0)).snoc (hrec.step _)
  have hlast := h _ _ hrun _ (List.mem_append_right _ (List.mem_singleton_self _))
  have hpos := (hlast ⟨mobileNodeAddress, foreignAgentPublicAddress, 0⟩ (by decide)).pos
  exact absurd hpos (by decide)

end Examples

end MobileIPHomeAgent

end MobileIP
