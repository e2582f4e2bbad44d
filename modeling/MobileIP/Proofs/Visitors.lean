import MobileIP.Proofs.ForeignAgent
import MobileIP.Spec.Definitions

/-! The lifetimes in the visitor list of a foreign agent, over every run of it. -/

namespace MobileIP

structure VisitorListItem.InRange (v : VisitorListItem) : Prop where
  pos : 1 ≤ v.remainingLifetime.toNat
  bound : v.remainingLifetime.toNat ≤ 65535
  le : v.remainingLifetime.toNat ≤ v.requestedLifetime.toNat

def RegistrationReply.Accepting (reply : RegistrationReply) : Prop := reply.code = 0 ∨ reply.code = 1

instance (reply : RegistrationReply) : Decidable reply.Accepting :=
  inferInstanceAs (Decidable (reply.code = 0 ∨ reply.code = 1))

namespace MobileIPForeignAgent

variable {fa fa₀ : MobileIPForeignAgent} {reply : RegistrationReply} {request : RequestListItem}
  {w : VisitorListItem}

/-- The lifetime `relayReply` enters for a visitor. -/
def visitorLifetime (fa : MobileIPForeignAgent) (reply : RegistrationReply) : UInt32 :=
  min reply.lifetime fa.maxAcceptedLifetime

def newVisitor (fa : MobileIPForeignAgent) (reply : RegistrationReply)
    (request : RequestListItem) : VisitorListItem :=
  { MNhome := reply.home
    MNhomeAgent := reply.homeAgent
    UDPSourcePort := request.rr.UDP.sourcePort
    requestedLifetime := fa.visitorLifetime reply
    remainingLifetime := fa.visitorLifetime reply }

theorem updateVisitors_expel (h : ¬ reply.Accepting) (h0 : reply.lifetime ≠ 0) :
    fa.updateVisitors reply request =
      VisitorList.remove reply.home reply.homeAgent fa.visitors := by
  have h' : ¬ (reply.code = 0 ∨ reply.code = 1) := h
  simp only [updateVisitors, if_neg h', if_pos h0]

theorem updateVisitors_refused (h : ¬ reply.Accepting) :
    (fa.updateVisitors reply request).Sublist fa.visitors := by
  by_cases h0 : reply.lifetime = 0
  · have h' : ¬ (reply.code = 0 ∨ reply.code = 1) := h
    simp only [updateVisitors, if_neg h', h0, ne_eq, not_true_eq_false, if_false]
    exact List.Sublist.refl _
  · rw [updateVisitors_expel h h0]
    exact VisitorList.remove_sublist _ _ _

theorem updateVisitors_leave (h : reply.Accepting) (h0 : reply.lifetime = 0)
    (hv : VisitorList.has reply.home reply.homeAgent fa.visitors = true) :
    fa.updateVisitors reply request =
      VisitorList.remove reply.home reply.homeAgent fa.visitors := by
  have h' : reply.code = 0 ∨ reply.code = 1 := h
  simp only [updateVisitors, acceptVisitor, if_pos h', h0, hv, if_true, ne_eq, not_true_eq_false,
    if_false]

theorem updateVisitors_renew (h : reply.Accepting) (h0 : reply.lifetime ≠ 0)
    (hv : VisitorList.has reply.home reply.homeAgent fa.visitors = true) :
    fa.updateVisitors reply request = fa.visitors.map fun it =>
      if VisitorList.Matches reply.home reply.homeAgent it then
        { it with
          requestedLifetime := fa.visitorLifetime reply
          remainingLifetime := fa.visitorLifetime reply }
      else it := by
  have h' : reply.code = 0 ∨ reply.code = 1 := h
  simp only [updateVisitors, acceptVisitor, if_pos h', if_neg h0, hv, if_true, if_pos h0,
    VisitorList.resetVisitorRemainingLifetime_eq, VisitorList.setVisitorRequestedLifetime_eq,
    List.map_map]
  refine List.map_congr_left fun it _ => ?_
  by_cases hm : VisitorList.Matches reply.home reply.homeAgent it
  · simp only [Function.comp, if_pos hm]; rfl
  · simp only [Function.comp, if_neg hm]

theorem updateVisitors_enter (h : reply.Accepting)
    (hv : VisitorList.has reply.home reply.homeAgent fa.visitors = false) :
    fa.updateVisitors reply request = fa.visitors ++ [fa.newVisitor reply request] := by
  have h' : reply.code = 0 ∨ reply.code = 1 := h
  have hadd : fa.acceptVisitor reply request = fa.visitors ++ [fa.newVisitor reply request] := by
    simp only [acceptVisitor, hv, Bool.false_eq_true, if_false]
    rfl
  simp only [updateVisitors, if_pos h', hadd]
  split_ifs
  · -- no older entry matches, and the new one is reset to what it holds
    have hold : fa.visitors.map (fun it =>
        if VisitorList.Matches reply.home reply.homeAgent it then
          { it with remainingLifetime := it.requestedLifetime } else it) = fa.visitors :=
      (List.map_congr_left fun it hit =>
        if_neg ((VisitorList.has_eq_false_iff _ _ _).1 hv it hit)).trans (List.map_id' _)
    rw [VisitorList.resetVisitorRemainingLifetime_eq, List.map_append, hold, List.map_singleton,
      if_pos ⟨rfl, rfl⟩]
    rfl
  · rfl

theorem mem_updateVisitors (hw : w ∈ fa.updateVisitors reply request) :
    w ∈ fa.visitors ∨
      (reply.Accepting ∧ VisitorList.Matches reply.home reply.homeAgent w ∧
        w.requestedLifetime = fa.visitorLifetime reply ∧
        w.remainingLifetime = fa.visitorLifetime reply ∧
        (reply.lifetime = 0 → VisitorList.has reply.home reply.homeAgent fa.visitors = false)) := by
  by_cases h : reply.Accepting
  · cases hv : VisitorList.has reply.home reply.homeAgent fa.visitors with
    | false =>
      rw [updateVisitors_enter h hv] at hw
      rcases List.mem_append.1 hw with hw | hw
      · exact Or.inl hw
      · rw [List.mem_singleton.1 hw]
        exact Or.inr ⟨h, ⟨rfl, rfl⟩, rfl, rfl, fun _ => rfl⟩
    | true =>
      by_cases h0 : reply.lifetime = 0
      · rw [updateVisitors_leave h h0 hv] at hw
        exact Or.inl ((VisitorList.remove_sublist _ _ _).subset hw)
      · rw [updateVisitors_renew h h0 hv] at hw
        obtain ⟨it, hit, rfl⟩ := List.mem_map.1 hw
        by_cases hm : VisitorList.Matches reply.home reply.homeAgent it
        · rw [if_pos hm]
          exact Or.inr ⟨h, hm, rfl, rfl, fun h0' => absurd h0' h0⟩
        · rw [if_neg hm]
          exact Or.inl hit
  · exact Or.inl ((updateVisitors_refused h).subset hw)

theorem updateVisitors_keys
    (h : (fa.visitors.map fun v => (v.MNhome, v.MNhomeAgent)).Nodup) :
    ((fa.updateVisitors reply request).map fun v => (v.MNhome, v.MNhomeAgent)).Nodup := by
  by_cases hacc : reply.Accepting
  · cases hv : VisitorList.has reply.home reply.homeAgent fa.visitors with
    | false =>
      rw [updateVisitors_enter hacc hv, List.map_append, List.map_singleton]
      refine List.Nodup.append h (List.nodup_singleton _) ?_
      rw [List.disjoint_singleton]
      intro hmem
      obtain ⟨v, hv', heq⟩ := List.mem_map.1 hmem
      exact (VisitorList.has_eq_false_iff _ _ _).1 hv v hv' (Prod.mk.inj heq)
    | true =>
      by_cases h0 : reply.lifetime = 0
      · rw [updateVisitors_leave hacc h0 hv]
        exact h.sublist ((VisitorList.remove_sublist _ _ _).map _)
      · rw [updateVisitors_renew hacc h0 hv, List.map_map]
        convert h using 2
        funext v
        simp only [Function.comp]
        split_ifs <;> rfl
  · exact h.sublist ((updateVisitors_refused hacc).map _)

theorem exists_updateVisitors (fa : MobileIPForeignAgent) (hacc : reply.Accepting)
    (h0 : reply.lifetime ≠ 0) (request : RequestListItem) : ∃ v ∈ fa.updateVisitors reply request,
      VisitorList.Matches reply.home reply.homeAgent v ∧
        v.requestedLifetime = fa.visitorLifetime reply ∧
        v.remainingLifetime = fa.visitorLifetime reply := by
  cases hv : VisitorList.has reply.home reply.homeAgent fa.visitors with
  | false =>
    rw [updateVisitors_enter hacc hv]
    exact ⟨_, List.mem_append_right _ (List.mem_singleton_self _), ⟨rfl, rfl⟩, rfl, rfl⟩
  | true =>
    obtain ⟨it, hit, hm⟩ := (VisitorList.has_iff _ _ _).1 hv
    rw [updateVisitors_renew hacc h0 hv]
    refine ⟨_, List.mem_map_of_mem hit, ?_⟩
    rw [if_pos hm]
    exact ⟨hm, rfl, rfl⟩

theorem updateVisitors_visitor (hacc : reply.Accepting) (h0 : reply.lifetime ≠ 0)
    (request : RequestListItem) (h : (fa.visitors.map fun v => (v.MNhome, v.MNhomeAgent)).Nodup) :
    ((fa.updateVisitors reply request).filter fun v =>
        decide ((v.MNhome, v.MNhomeAgent) = (reply.home, reply.homeAgent))).map
      VisitorListItem.remainingLifetime = [fa.visitorLifetime reply] := by
  obtain ⟨v, hv, hm, -, hrem⟩ := fa.exists_updateVisitors hacc h0 request
  have hkey : (v.MNhome, v.MNhomeAgent) = (reply.home, reply.homeAgent) := Prod.ext hm.1 hm.2
  rw [← hkey, CountDown.filter_key_eq_singleton (updateVisitors_keys h) hv, List.map_singleton,
    hrem]

/-- The step in which an entry is given no lifetime: an accepting reply whose lifetime is 0 comes in
for a node that is no visitor, or one whose lifetime is not 0 while no lifetime is accepted. -/
def StoresZero (x : Machine.Entry MobileIPForeignAgent FAEvent Emission) : Prop :=
  ∃ clock reply request, ReceivesReply x.event clock reply ∧ x.before.Answers reply request ∧
    reply.Accepting ∧
    ((reply.lifetime = 0 ∧ VisitorList.has reply.home reply.homeAgent x.before.visitors = false) ∨
      (reply.lifetime ≠ 0 ∧ x.before.maxAcceptedLifetime = 0))

theorem visitorLifetime_eq_zero_iff :
    fa.visitorLifetime reply = 0 ↔ reply.lifetime = 0 ∨ fa.maxAcceptedLifetime = 0 := by
  simp only [← UInt32.toNat_inj, visitorLifetime, UInt32.toNat_min, UInt32.toNat_zero]
  omega

theorem updateVisitors_zero (hacc : reply.Accepting)
    (h : (reply.lifetime = 0 ∧ VisitorList.has reply.home reply.homeAgent fa.visitors = false) ∨
      (reply.lifetime ≠ 0 ∧ fa.maxAcceptedLifetime = 0)) :
    ∃ w ∈ fa.updateVisitors reply request, w.remainingLifetime = 0 := by
  have hzero : fa.visitorLifetime reply = 0 := by
    rw [visitorLifetime_eq_zero_iff]
    exact h.imp And.left And.right
  cases hv : VisitorList.has reply.home reply.homeAgent fa.visitors with
  | false =>
    rw [updateVisitors_enter hacc hv]
    exact ⟨_, List.mem_append_right _ (List.mem_singleton_self _), hzero⟩
  | true =>
    have h0 : reply.lifetime ≠ 0 := by
      rcases h with ⟨-, h⟩ | ⟨h, -⟩
      · exact absurd (hv.symm.trans h) (by decide)
      · exact h
    obtain ⟨it, hit, hm⟩ := (VisitorList.has_iff _ _ _).1 hv
    rw [updateVisitors_renew hacc h0 hv]
    exact ⟨_, List.mem_map_of_mem hit, by rw [if_pos hm]; exact hzero⟩

theorem updateVisitors_inRange (h : ∀ v ∈ fa.visitors, v.InRange)
    (hl : reply.lifetime.toNat ≤ 65535)
    (hz : ¬ ((reply.lifetime = 0 ∧
        VisitorList.has reply.home reply.homeAgent fa.visitors = false) ∨
      (reply.lifetime ≠ 0 ∧ fa.maxAcceptedLifetime = 0))) :
    ∀ v ∈ fa.updateVisitors reply request, v.InRange := by
  intro v hv
  rcases mem_updateVisitors hv with hv | ⟨-, -, hreq, hrem, h0⟩
  · exact h v hv
  · have hne : fa.visitorLifetime reply ≠ 0 := by
      rw [Ne, visitorLifetime_eq_zero_iff]
      intro hzero
      rcases hzero with hl0 | hm0
      · exact hz (Or.inl ⟨hl0, h0 hl0⟩)
      · by_cases hl0 : reply.lifetime = 0
        · exact hz (Or.inl ⟨hl0, h0 hl0⟩)
        · exact hz (Or.inr ⟨hl0, hm0⟩)
    have hpos := toNat_ne_zero.2 hne
    have hmin : (fa.visitorLifetime reply).toNat = min reply.lifetime.toNat
        fa.maxAcceptedLifetime.toNat := UInt32.toNat_min _ _
    refine ⟨?_, ?_, ?_⟩ <;> rw [hrem]
    · omega
    · omega
    · rw [hreq]

theorem countDown_inRange {v v' : VisitorListItem} (hv : v.InRange)
    (h : VisitorList.countDown v = some v') : v'.InRange := by
  unfold VisitorList.countDown at h
  have hne : v.remainingLifetime ≠ 0 := toNat_ne_zero.1 (by have := hv.pos; omega)
  have hpred := toNat_pred hne
  obtain ⟨hp, hb, hle⟩ := hv
  split_ifs at h with h1 h2
  · cases h; exact ⟨hp, hb, hle⟩
  · cases h
    have := toNat_ne_zero.2 h2
    exact ⟨by dsimp only; omega, by dsimp only; omega, by dsimp only; omega⟩

theorem inRange_step_iff (x : Machine.Entry MobileIPForeignAgent FAEvent Emission)
    (hx : x.before.step x.event = .ok (x.after, x.out)) (h : ∀ v ∈ x.before.visitors, v.InRange) :
    (∀ v ∈ x.after.visitors, v.InRange) ↔ ¬ StoresZero x := by
  rcases step_cases hx with ⟨clock, ttl, registration, hrec, hrel⟩ | ⟨clock, reply, hrec, hrel⟩ |
    ⟨clock, hev, htick⟩ | ⟨-, hnone, -, hvis, -⟩
  · have hvis : x.after.visitors = x.before.visitors := by
      rcases relayRequest_cases hrel with heq | heq <;> rw [heq]
    refine iff_of_true (by rw [hvis]; exact h) ?_
    intro hstores
    obtain ⟨_, _, _, ⟨_, _, hev, -⟩, -⟩ := hstores
    obtain ⟨p, hev', -⟩ := hrec
    simp [hev] at hev'
  · have hl : reply.lifetime.toNat ≤ 65535 := by
      obtain ⟨_, _, -, -, hr⟩ := hrec
      exact (processRegistrationReplyPacket_fields hr).2
    rcases relayReply_cases hrel with ⟨rs, -, heq, hno, -⟩ | ⟨request, rs, hans, -, heq, -⟩
    · refine iff_of_true (by rw [heq]; exact h) ?_
      intro hstores
      obtain ⟨_, reply', request, hrec', hans, -⟩ := hstores
      obtain rfl := hrec.unique hrec'
      exact hno request hans
    · have hvis : x.after.visitors = x.before.updateVisitors reply request := by rw [heq]
      rw [hvis]
      constructor
      · intro hin hstores
        obtain ⟨_, reply', request', hrec', hans', hacc, hz⟩ := hstores
        obtain rfl := hrec.unique hrec'
        obtain rfl := hans.unique hans'
        obtain ⟨w, hw, hw0⟩ := updateVisitors_zero hacc hz
        have := (hin w hw).pos
        simp [hw0] at this
      · intro hns
        by_cases hacc : reply.Accepting
        · exact updateVisitors_inRange h hl fun hz =>
            hns ⟨clock, reply, request, hrec, hans, hacc, hz⟩
        · exact fun v hv => h v ((updateVisitors_refused hacc).subset hv)
  · have hvis : x.after.visitors = VisitorList.decreaseLifetime x.before.visitors := by
      rw [← (Prod.mk.inj htick).1]
    refine iff_of_true ?_ ?_
    · rw [hvis, VisitorList.decreaseLifetime_eq]
      intro v hv
      obtain ⟨v₀, hv₀, hc⟩ := List.mem_filterMap.1 hv
      exact countDown_inRange (h v₀ hv₀) hc
    · intro hstores
      obtain ⟨_, _, _, ⟨_, _, hev', -⟩, -⟩ := hstores
      rw [hev] at hev'
      cases hev'
  · refine iff_of_true (by rw [hvis]; exact h) ?_
    intro hstores
    obtain ⟨_, _, _, hrec, -⟩ := hstores
    exact hnone _ _ hrec

def Renews (x : Machine.Entry MobileIPForeignAgent FAEvent Emission) (h a : IPAddress) : Prop :=
  ∃ clock reply request, ReceivesReply x.event clock reply ∧ x.before.Answers reply request ∧
    reply.Accepting ∧ reply.home = h ∧ reply.homeAgent = a

def ticks (tr : Machine.Trace MobileIPForeignAgent FAEvent Emission) : ℕ :=
  tr.countP fun x => x.event matches .runTimer _

theorem mem_after {x : Machine.Entry MobileIPForeignAgent FAEvent Emission} {h a : IPAddress}
    (hx : x.before.step x.event = .ok (x.after, x.out)) (hr : ¬ Renews x h a)
    (hw : w ∈ x.after.visitors) (hm : VisitorList.Matches h a w) :
    (x.event matches .runTimer _) = true ∧
        (∃ v ∈ x.before.visitors, VisitorList.countDown v = some w) ∨
      (x.event matches .runTimer _) = false ∧ w ∈ x.before.visitors := by
  rcases step_cases hx with ⟨clock, ttl, registration, ⟨p, hev, -⟩, hrel⟩ |
    ⟨clock, reply, hrec, hrel⟩ | ⟨clock, hev, htick⟩ | ⟨hnt, -, -, hvis, -⟩
  · refine Or.inr ⟨by rw [hev], ?_⟩
    rcases relayRequest_cases hrel with heq | heq <;> rw [heq] at hw <;> exact hw
  · have hev : (x.event matches .runTimer _) = false := by
      obtain ⟨_, _, hev, -⟩ := hrec
      rw [hev]
    rcases relayReply_cases hrel with ⟨rs, -, heq, -, -⟩ | ⟨request, rs, hans, -, heq, -⟩
    · exact Or.inr ⟨hev, by rw [heq] at hw; exact hw⟩
    · rw [heq] at hw
      rcases mem_updateVisitors hw with hw | ⟨hacc, hm', -⟩
      · exact Or.inr ⟨hev, hw⟩
      · exact absurd ⟨clock, reply, request, hrec, hans, hacc, hm'.1.symm.trans hm.1,
          hm'.2.symm.trans hm.2⟩ hr
  · refine Or.inl ⟨by rw [hev], ?_⟩
    rw [← (Prod.mk.inj htick).1] at hw
    exact List.mem_filterMap.1 (VisitorList.decreaseLifetime_eq _ ▸ hw)
  · refine Or.inr ⟨?_, by rw [hvis] at hw; exact hw⟩
    cases he : x.event with
    | runTimer clock => exact absurd he (hnt clock)
    | push _ _ _ _ => rfl
    | maxLifetime _ => rfl
    | requestTimeout _ => rfl
    | maxPendingRegistrations _ => rfl

def UsedUp (v : VisitorListItem) (n : ℕ) (fa : MobileIPForeignAgent) : Prop :=
  ∀ w ∈ fa.visitors, VisitorList.Matches v.MNhome v.MNhomeAgent w →
    w.requestedLifetime = v.requestedLifetime ∧
      w.remainingLifetime.toNat + n ≤ v.requestedLifetime.toNat

theorem usedUp_run {s s' : MobileIPForeignAgent} {v : VisitorListItem}
    {tr : Machine.Trace MobileIPForeignAgent FAEvent Emission}
    (hrun : Machine.Run MobileIPForeignAgent.step s tr s')
    (hin : ∀ x ∈ tr, ∀ w ∈ x.before.visitors, w.InRange)
    (hr : ∀ x ∈ tr, ¬ Renews x v.MNhome v.MNhomeAgent) (hinf : v.requestedLifetime ≠ 65535)
    (h0 : UsedUp v 0 s) : UsedUp v (ticks tr) s' := by
  refine hrun.counting (C := fun x => (∀ w ∈ x.before.visitors, w.InRange) ∧
    ¬ Renews x v.MNhome v.MNhomeAgent) h0 ?_ fun x hx => ⟨hin x hx, hr x hx⟩
  intro x n hx hC hn w hw hm
  obtain ⟨hin, hr⟩ := hC
  rcases mem_after hx hr hw hm with ⟨he, u, hu, hc⟩ | ⟨he, hw'⟩
  · have hne : u.remainingLifetime ≠ 0 :=
      toNat_ne_zero.1 (by have := (hin u hu).pos; omega)
    have hpred := toNat_pred hne
    have hpos := toNat_ne_zero.2 hne
    rw [he, Bool.toNat_true]
    unfold VisitorList.countDown at hc
    split_ifs at hc with h1 h2
    · cases hc
      exact absurd ((hn _ hu hm).1.symm.trans h1) hinf
    · cases hc
      obtain ⟨hreq, hle⟩ := hn u hu hm
      refine ⟨hreq, ?_⟩
      dsimp only
      omega
  · rw [he]
    exact hn w hw' hm

theorem keys_nodup_step {e : FAEvent} {out : List Emission} {fa' : MobileIPForeignAgent}
    (h : (fa.visitors.map fun v => (v.MNhome, v.MNhomeAgent)).Nodup)
    (hs : fa.step e = .ok (fa', out)) :
    (fa'.visitors.map fun v => (v.MNhome, v.MNhomeAgent)).Nodup := by
  rcases step_cases hs with
    ⟨_, _, _, -, hrel⟩ | ⟨_, _, -, hrel⟩ | ⟨_, -, htick⟩ | ⟨-, -, -, hvis, -⟩
  · rcases relayRequest_cases hrel with rfl | rfl <;> exact h
  · rcases relayReply_cases hrel with ⟨_, -, rfl, -, -⟩ | ⟨_, _, -, -, rfl, -⟩
    · exact h
    · exact updateVisitors_keys h
  · rw [← (Prod.mk.inj htick).1]
    dsimp only
    rw [VisitorList.decreaseLifetime_eq]
    exact h.sublist (CountDown.keys_filterMap_sublist (fun _ _ => VisitorList.countDown_key) _)
  · rw [hvis]; exact h

theorem keys_nodup_run {tr : Machine.Trace MobileIPForeignAgent FAEvent Emission}
    (h0 : fa₀.visitors = []) (hrun : Machine.Run MobileIPForeignAgent.step fa₀ tr fa) :
    (fa.visitors.map fun v => (v.MNhome, v.MNhomeAgent)).Nodup :=
  Machine.Run.invariant (I := fun s => (s.visitors.map fun v => (v.MNhome, v.MNhomeAgent)).Nodup)
    (by simp [h0]) (fun _ _ _ _ => keys_nodup_step) hrun

/-- In a run that starts without visitors the lifetimes stay in range, no counter is taken below
zero and every visitor that is not renewed is gone after its lifetime, exactly when no step of the
run gives an entry a zero. -/
theorem visitor_lifetimes_in_range_iff {tr : Machine.Trace MobileIPForeignAgent FAEvent Emission}
    (h0 : fa₀.visitors = []) (hrun : Machine.Run MobileIPForeignAgent.step fa₀ tr fa) :
    ((∀ x ∈ tr, ∀ v ∈ x.after.visitors, v.InRange) ∧
      (∀ x ∈ tr, ∀ clock, x.event = .runTimer clock → ∀ v ∈ x.before.visitors,
        v.requestedLifetime ≠ 65535 → v.remainingLifetime ≠ 0) ∧
      ∀ pre x post, tr = pre ++ x :: post → ∀ v ∈ x.after.visitors, v.requestedLifetime ≠ 65535 →
        (∀ y ∈ post, ¬ Renews y v.MNhome v.MNhomeAgent) → v.requestedLifetime.toNat ≤ ticks post →
        VisitorList.has v.MNhome v.MNhomeAgent fa.visitors = false) ↔
      ∀ x ∈ tr, ¬ StoresZero x := by
  have hstart : ∀ v ∈ fa₀.visitors, v.InRange := by simp [h0]
  have hiff := hrun.always_iff (I := fun s => ∀ v ∈ s.visitors, v.InRange) hstart inRange_step_iff
  rw [← hiff]
  refine ⟨fun h => h.1, fun h => ?_⟩
  obtain ⟨hbefore, hend⟩ := hrun.before_of_after (I := fun s => ∀ v ∈ s.visitors, v.InRange) hstart h
  refine ⟨h, ?_, ?_⟩
  · intro x hx _ _ v hv _ hzero
    have := (hbefore x hx v hv).pos
    simp [hzero] at this
  · intro pre x post htr v hv hinf hr hticks
    subst htr
    have hx : x ∈ pre ++ x :: post := by simp
    have hpost : ∀ y ∈ post, y ∈ pre ++ x :: post := fun y hy => by simp [hy]
    have hnodup : (x.after.visitors.map fun v => (v.MNhome, v.MNhomeAgent)).Nodup :=
      keys_nodup_step (keys_nodup_run h0 (hrun.to_entry pre x post rfl)) (hrun.step_mem x hx)
    rw [VisitorList.has_eq_false_iff]
    intro w hw hm
    have hcount := usedUp_run (hrun.from_entry pre x post rfl)
      (fun y hy => hbefore y (hpost y hy)) hr hinf ?_ w hw hm
    · have := (hend w hw).pos
      omega
    · -- the keys are distinct, so the entry with the key of `v` is `v`
      intro u hu hmu
      obtain rfl := List.inj_on_of_nodup_map hnodup hu hv (Prod.ext hmu.1 hmu.2)
      exact ⟨rfl, (h x hx u hu).le⟩

section Examples

open Definitions

theorem visitor_lifetimes_in_range_one_second :
    ∃ tr fa, Machine.Run MobileIPForeignAgent.step foreignAgent tr fa ∧ ticks tr = 1 ∧
      ∀ x ∈ tr, ∀ v ∈ x.after.visitors, v.InRange := by
  have hreq : ReceivesRequest (requestArrives (requestFrom 1 7)) ⟨0, 0⟩ 0
      (requestFrom 1 7).request :=
    ⟨_, rfl, by decide +kernel, by decide +kernel⟩
  have hrep : ReceivesReply (replyArrives (replyFrom 1 7)) ⟨0, 0⟩ (replyFrom 1 7).reply :=
    ⟨_, _, rfl, by decide +kernel, by decide +kernel⟩
  have hrun := ((Machine.Run.nil.snoc (hreq.step foreignAgent)).snoc (hrep.step _)).snoc
    (step_runTimer _ fun _ => ⟨0, 0⟩)
  refine ⟨_, _, hrun, rfl, ((visitor_lifetimes_in_range_iff rfl hrun).2 ?_).1⟩
  simp only [List.nil_append, List.cons_append, List.forall_mem_cons]
  refine ⟨?_, ?_, ?_, by simp⟩
  · intro hstores
    obtain ⟨_, _, _, ⟨_, _, hev, -⟩, -⟩ := hstores
    cases hev
  · intro hstores
    obtain ⟨_, _, _, hrec, -, -, hz⟩ := hstores
    obtain rfl := hrep.unique hrec
    revert hz
    decide
  · intro hstores
    obtain ⟨_, _, _, ⟨_, _, hev, -⟩, -⟩ := hstores
    cases hev

/-- A node that deregisters through a foreign agent it does not visit is entered as a visitor with
no lifetime. -/
theorem visitor_lifetime_zero :
    ¬ ∀ tr fa, Machine.Run MobileIPForeignAgent.step foreignAgent tr fa →
      ∀ x ∈ tr, ∀ v ∈ x.after.visitors, v.InRange := by
  intro h
  have hreq : ReceivesRequest (requestArrives (requestFrom 0 7)) ⟨0, 0⟩ 0
      (requestFrom 0 7).request :=
    ⟨_, rfl, by decide +kernel, by decide +kernel⟩
  have hrep : ReceivesReply (replyArrives (replyFrom 0 7)) ⟨0, 0⟩ (replyFrom 0 7).reply :=
    ⟨_, _, rfl, by decide +kernel, by decide +kernel⟩
  have hrun := (Machine.Run.nil.snoc (hreq.step foreignAgent)).snoc (hrep.step _)
  have hlast := h _ _ hrun _ (List.mem_append_right _ (List.mem_singleton_self _))
  have hpos := (hlast ⟨mobileNodeAddress, 5241, homeAgentPublicAddress, 0, 0⟩ (by decide)).pos
  exact absurd hpos (by decide)

end Examples

end MobileIPForeignAgent

end MobileIP
