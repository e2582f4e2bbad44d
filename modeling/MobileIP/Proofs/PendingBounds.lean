import MobileIP.Proofs.PendingRequests
import MobileIP.Proofs.Visitors

/-! The pending requests of a foreign agent: how many there are and how long they have waited. -/

namespace MobileIP

namespace MobileIPForeignAgent

open RequestList

variable {fa fa₀ : MobileIPForeignAgent} {x : Machine.Entry MobileIPForeignAgent FAEvent Emission}
  {tr : Machine.Trace MobileIPForeignAgent FAEvent Emission}

def appended (x : Machine.Entry MobileIPForeignAgent FAEvent Emission) : List RegistrationRequest :=
  (x.after.requests.drop x.before.requests.length).map RequestListItem.rr

/-- The requests that became pending in a run, each with the number of ticks since. -/
def accepted : Machine.Trace MobileIPForeignAgent FAEvent Emission → List (RegistrationRequest × ℕ)
  | [] => []
  | x :: tr => (appended x).map (fun registration => (registration, ticks tr)) ++ accepted tr

def age (it : RequestListItem) : RegistrationRequest × ℕ := (it.rr, it.waitingTime.toNat)

/-- There are at most `N` pending requests, none has waited longer than `T`, and they are some of
those that became pending at most `T` ticks ago, in order. -/
structure Bounded (N T : UInt32) (tr : Machine.Trace MobileIPForeignAgent FAEvent Emission)
    (fa : MobileIPForeignAgent) : Prop where
  number : fa.requests.length ≤ N.toNat
  waited : ∀ it ∈ fa.requests, it.waitingTime ≤ T
  aged : (fa.requests.map age).Sublist ((accepted tr).filter fun r => r.2 ≤ T.toNat)

theorem ticks_snoc (tr : Machine.Trace MobileIPForeignAgent FAEvent Emission)
    (x : Machine.Entry MobileIPForeignAgent FAEvent Emission) :
    ticks (tr ++ [x]) = ticks tr + (x.event matches .runTimer _).toNat :=
  Machine.countP_snoc _ tr x

theorem accepted_snoc (tr : Machine.Trace MobileIPForeignAgent FAEvent Emission)
    (x : Machine.Entry MobileIPForeignAgent FAEvent Emission) :
    accepted (tr ++ [x]) =
      (accepted tr).map (fun r => (r.1, r.2 + (x.event matches .runTimer _).toNat)) ++
        (appended x).map fun registration => (registration, 0) := by
  induction tr with
  | nil => simp [accepted, ticks]
  | cons y tr ih =>
    simp only [List.cons_append, accepted, ih, ticks_snoc, List.map_append, List.map_map,
      List.append_assoc]
    rfl

theorem requests_step (hx : x.before.step x.event = .ok (x.after, x.out)) :
    (∃ it, x.after.requests = x.before.requests ++ [it] ∧ it.waitingTime = 0 ∧
      RequestList.size x.before.requests < x.before.maxPendingRegistrations ∧
      (x.event matches .runTimer _) = false) ∨
    (x.after.requests = x.before.requests.filterMap (tick x.before.requestTimeout) ∧
      (x.event matches .runTimer _) = true) ∨
    (x.after.requests.Sublist x.before.requests ∧ (x.event matches .runTimer _) = false) := by
  rcases step_cases hx with ⟨clock, ttl, registration, ⟨p, hev, -⟩, hrel⟩ |
    ⟨clock, reply, ⟨_, _, hev, -⟩, hrel⟩ | ⟨clock, hev, htick⟩ | ⟨hnt, -, hreq, -, -⟩
  · have hnt : (x.event matches .runTimer _) = false := by rw [hev]
    unfold relayRequest at hrel
    split at hrel
    · obtain ⟨heq, -⟩ := Prod.mk.inj hrel
      exact Or.inr (Or.inr ⟨heq ▸ List.Sublist.refl _, hnt⟩)
    · next hcheck =>
      obtain ⟨heq, -⟩ := Prod.mk.inj hrel
      exact Or.inl ⟨_, (congrArg requests heq).symm, rfl, (passes_of_checkRequestValidity hcheck).room,
        hnt⟩
  · have hnt : (x.event matches .runTimer _) = false := by rw [hev]
    rcases relayReply_cases hrel with ⟨_, hsub, heq, -, -⟩ | ⟨_, _, -, hsub, heq, -⟩
    · exact Or.inr (Or.inr ⟨heq ▸ hsub, hnt⟩)
    · exact Or.inr (Or.inr ⟨heq ▸ hsub, hnt⟩)
  · refine Or.inr (Or.inl ⟨?_, by rw [hev]⟩)
    rw [← runTimer_requests x.before clock, htick]
  · refine Or.inr (Or.inr ⟨hreq ▸ List.Sublist.refl _, ?_⟩)
    cases hev : x.event with
    | runTimer clock => exact absurd hev (hnt clock)
    | push clock ttl port p => rfl
    | maxLifetime value => rfl
    | requestTimeout value => rfl
    | maxPendingRegistrations value => rfl

theorem toNat_size {l : RequestList} (h : l.length < 2 ^ 32) : (RequestList.size l).toNat = l.length :=
  Nat.mod_eq_of_lt h

theorem length_step (hx : x.before.step x.event = .ok (x.after, x.out))
    (hlen : x.before.requests.length < 2 ^ 32) :
    x.after.requests.length ≤ x.before.requests.length ∨
      x.before.requests.length < x.before.maxPendingRegistrations.toNat ∧
        x.after.requests.length = x.before.requests.length + 1 := by
  rcases requests_step hx with ⟨it, heq, -, hroom, -⟩ | ⟨heq, -⟩ | ⟨hsub, -⟩
  · rw [UInt32.lt_iff_toNat_lt, toNat_size hlen] at hroom
    exact Or.inr ⟨hroom, by simp [heq]⟩
  · exact Or.inl (heq ▸ List.length_filterMap_le _ _)
  · exact Or.inl hsub.length_le

theorem length_lt (h0 : fa₀.requests = [])
    (hrun : Machine.Run MobileIPForeignAgent.step fa₀ tr fa) : fa.requests.length < 2 ^ 32 := by
  refine Machine.Run.invariant_of (I := fun fa => fa.requests.length < 2 ^ 32) (C := fun _ => True)
    (by simp [h0]) ?_ hrun fun _ _ => trivial
  intro x hx _ hlen
  have hmax := x.before.maxPendingRegistrations.toNat_lt
  have := length_step hx hlen
  omega

theorem length_le_of_full (h0 : fa₀.requests = [])
    (hrun : Machine.Run MobileIPForeignAgent.step fa₀ tr fa) :
    ∀ x ∈ tr, x.before.maxPendingRegistrations.toNat ≤ x.before.requests.length →
      x.after.requests.length ≤ x.before.requests.length := by
  intro x hx hfull
  obtain ⟨pre, post, rfl⟩ := List.append_of_mem hx
  have hlen := length_lt h0 (hrun.to_entry pre x post rfl)
  have := length_step (hrun.step_mem x hx) hlen
  omega

theorem appended_eq_nil (h : x.after.requests.length ≤ x.before.requests.length) :
    appended x = [] := by
  rw [appended, List.drop_eq_nil_of_le h, List.map_nil]

theorem age_tick {T : UInt32} (hT : T.toNat < 2 ^ 32 - 1) {it it' : RequestListItem}
    (hle : it.waitingTime ≤ T) (ht : tick T it = some it') :
    age it' = (it.rr, it.waitingTime.toNat + 1) ∧ it'.waitingTime ≤ T := by
  obtain ⟨c, hc, rfl, hle'⟩ := tick_eq_some_iff.1 ht
  refine ⟨?_, hle'⟩
  rw [UInt32.le_iff_toNat_le] at hle
  have hwait : c.waitingTime = it.waitingTime ∧ c.rr = it.rr := by
    rcases countDown_some hc with ⟨-, rfl⟩ | ⟨-, -, -, rfl⟩ <;> exact ⟨rfl, rfl⟩
  have hsucc : (it.waitingTime + 1).toNat = it.waitingTime.toNat + 1 := by
    rw [UInt32.toNat_add]
    exact Nat.mod_eq_of_lt (by simp; omega)
  simp only [age, wait, hwait, hsucc]

theorem bounded_step {N T : UInt32} (hT : T.toNat < 2 ^ 32 - 1)
    (hx : x.before.step x.event = .ok (x.after, x.out))
    (hN : x.before.maxPendingRegistrations = N) (hT' : x.before.requestTimeout = T)
    (h : Bounded N T tr x.before) : Bounded N T (tr ++ [x]) x.after := by
  have hNlt := N.toNat_lt
  have hnumber : x.after.requests.length ≤ N.toNat := by
    have := length_step hx (by have := h.number; omega)
    rw [hN] at this
    have := h.number
    omega
  have hsub : (x.before.requests.map age).Sublist (accepted tr) :=
    h.aged.trans List.filter_sublist
  -- it is enough that the requests are some of those accepted, as none has waited too long
  suffices hall : (∀ it ∈ x.after.requests, it.waitingTime ≤ T) ∧
      (x.after.requests.map age).Sublist (accepted (tr ++ [x])) by
    refine ⟨hnumber, hall.1, ?_⟩
    have hfilter := hall.2.filter fun r => decide (r.2 ≤ T.toNat)
    rwa [List.filter_eq_self.2] at hfilter
    intro r hr
    obtain ⟨it, hit, rfl⟩ := List.mem_map.1 hr
    exact decide_eq_true (UInt32.le_iff_toNat_le.1 (hall.1 it hit))
  rw [accepted_snoc]
  rcases requests_step hx with ⟨it, heq, hwait, -, hev⟩ | ⟨heq, hev⟩ | ⟨hsub', hev⟩
  · have happ : appended x = [it.rr] := by simp [appended, heq]
    simp only [heq, hev, happ, Bool.toNat_false, Nat.add_zero, List.map_id', List.map_append,
      List.forall_mem_append, List.forall_mem_singleton, List.map_cons, List.map_nil]
    refine ⟨⟨h.waited, hwait ▸ UInt32.zero_le⟩, hsub.append ?_⟩
    rw [age, hwait]
    exact List.Sublist.refl _
  · have happ : appended x = [] := appended_eq_nil (heq ▸ List.length_filterMap_le _ _)
    simp only [hev, happ, Bool.toNat_true, List.map_nil, List.append_nil]
    rw [heq, hT']
    refine ⟨?_, ?_⟩
    · intro it' hit'
      obtain ⟨it, hit, ht⟩ := List.mem_filterMap.1 hit'
      exact (age_tick hT (h.waited it hit) ht).2
    · have hage := CountDown.map_filterMap_sublist (f := tick T) (l := x.before.requests)
        fun it hit it' ht => (age_tick hT (h.waited it hit) ht).1
      have hmap := hsub.map fun r => (r.1, r.2 + 1)
      rw [List.map_map] at hmap
      exact hage.trans hmap
  · have happ : appended x = [] := appended_eq_nil hsub'.length_le
    simp only [hev, happ, Bool.toNat_false, Nat.add_zero, List.map_id', List.map_nil,
      List.append_nil]
    exact ⟨fun it hit => h.waited it (hsub'.subset hit), (hsub'.map age).trans hsub⟩

def Fixed (fa₀ fa : MobileIPForeignAgent) : Prop :=
  fa.maxPendingRegistrations = fa₀.maxPendingRegistrations ∧ fa.requestTimeout = fa₀.requestTimeout

instance (fa₀ fa : MobileIPForeignAgent) : Decidable (Fixed fa₀ fa) :=
  inferInstanceAs (Decidable (_ ∧ _))

theorem bounded_of_fixed (h0 : fa₀.requests = []) (hT : fa₀.requestTimeout.toNat < 2 ^ 32 - 1)
    (hrun : Machine.Run MobileIPForeignAgent.step fa₀ tr fa) (hfixed : ∀ x ∈ tr, Fixed fa₀ x.after) :
    Bounded fa₀.maxPendingRegistrations fa₀.requestTimeout tr fa := by
  induction hrun with
  | nil => exact ⟨by simp [h0], by simp [h0], by simp [h0]⟩
  | @snoc tr s s' e out hrun hs ih =>
    have hpre : ∀ x ∈ tr, Fixed fa₀ x.after := fun x hx => hfixed x (List.mem_append_left _ hx)
    obtain ⟨hN, hT'⟩ := (Machine.Run.before_of_after (I := Fixed fa₀) ⟨rfl, rfl⟩ hrun hpre).2
    exact bounded_step (x := ⟨s, e, out, s'⟩) hT hs hN hT' (ih hpre)

/-- While the limit and the time-out are left alone there are at most that many pending requests,
and each is gone with the tick after the time-out has passed, whatever its lifetime; and in any run
nothing is added to a list that is at or above the limit, also when that was lowered. -/
theorem pending_bounded (h0 : fa₀.requests = [])
    (hrun : Machine.Run MobileIPForeignAgent.step fa₀ tr fa) :
    (fa₀.requestTimeout.toNat < 2 ^ 32 - 1 → (∀ x ∈ tr, Fixed fa₀ x.after) →
      Bounded fa₀.maxPendingRegistrations fa₀.requestTimeout tr fa) ∧
    ∀ x ∈ tr, x.before.maxPendingRegistrations.toNat ≤ x.before.requests.length →
      x.after.requests.length ≤ x.before.requests.length :=
  ⟨fun hT hfixed => bounded_of_fixed h0 hT hrun hfixed, length_le_of_full h0 hrun⟩

section Examples

open Definitions

/-- A deregistration and eight ticks: the request is accepted, and gone after the last. -/
def timedOutRun : Machine.Trace MobileIPForeignAgent FAEvent Emission × MobileIPForeignAgent :=
  Machine.exec MobileIPForeignAgent.step foreignAgent
    (requestArrives (requestFrom 0 9) :: List.replicate 8 (.runTimer fun _ => ⟨0, 0⟩))

theorem pending_bounded_deregistration :
    accepted timedOutRun.1 = [((requestFrom 0 9).request, 8)] ∧
      Bounded foreignAgent.maxPendingRegistrations foreignAgent.requestTimeout timedOutRun.1
        timedOutRun.2 := by
  refine ⟨by decide +kernel, ?_⟩
  exact (pending_bounded rfl (Machine.Run.of_exec foreignAgent _)).1 (by decide) (by decide +kernel)

end Examples

end MobileIPForeignAgent

end MobileIP
