import MobileIP.Lib.CountDown
import MobileIP.Spec.Lists
import Mathlib.Tactic

/-! What the loops of the three tables compute, in terms of `filter`, `map` and `filterMap`. -/

namespace MobileIP

theorem toNat_pred {x : UInt32} (h : x ≠ 0) : (x - 1).toNat = x.toNat - 1 := by
  have hx : x.toNat ≠ 0 := fun h' => h (UInt32.toNat_inj.1 (by simpa using h'))
  rw [UInt32.toNat_sub_of_le]
  · rfl
  · rw [UInt32.le_iff_toNat_le]
    change 1 ≤ x.toNat
    omega

theorem toNat_ne_zero {x : UInt32} : x.toNat ≠ 0 ↔ x ≠ 0 := by
  constructor
  · intro h hzero
    subst hzero
    exact h rfl
  · intro h h'; exact h (UInt32.toNat_inj.1 (by simpa using h'))

theorem pred_cases {x : UInt32} (h : 0 < x.toNat) :
    (x - 1 = 0 ∧ x.toNat = 1) ∨ (x - 1 ≠ 0 ∧ 0 < (x - 1).toNat ∧ (x - 1).toNat + 1 = x.toNat) := by
  have hpred := toNat_pred (toNat_ne_zero.1 h.ne')
  by_cases hone : x - 1 = 0
  · rw [hone, UInt32.toNat_zero] at hpred
    exact Or.inl ⟨hone, by omega⟩
  · have hpos := toNat_ne_zero.2 hone
    exact Or.inr ⟨hone, by omega, by omega⟩

namespace MobilityBindingList

/-- One step of `decreaseLifetime`. -/
def countDown (it : MobilityBindingListItem) : Option MobilityBindingListItem :=
  if it.remainingLifetime = 65535 then some it
  else if it.remainingLifetime - 1 ≠ 0 then
    some { it with remainingLifetime := it.remainingLifetime - 1 }
  else none

theorem decreaseLifetime_eq (l : MobilityBindingList) :
    decreaseLifetime l = l.filterMap countDown := by
  induction l with
  | nil => rfl
  | cons it rest ih =>
    simp only [decreaseLifetime, List.filterMap_cons, countDown, ih]
    split_ifs <;> rfl

theorem countDown_key {it it' : MobilityBindingListItem} (h : countDown it = some it') :
    (it'.homeAddress, it'.careOfAddress) = (it.homeAddress, it.careOfAddress) := by
  unfold countDown at h
  split_ifs at h
  · cases h; rfl
  · cases h; rfl

theorem remove_eq (h c : IPAddress) (l : MobilityBindingList) :
    remove h c l = l.filter fun it => !decide (it.homeAddress = h ∧ it.careOfAddress = c) := by
  induction l with
  | nil => rfl
  | cons it rest ih =>
    simp only [remove, List.filter_cons, ih]
    by_cases hc : it.homeAddress = h ∧ it.careOfAddress = c
    · simp [hc]
    · rw [if_neg hc]; simp [hc]

theorem removeAll_eq (h : IPAddress) (l : MobilityBindingList) :
    removeAll h l = l.filter fun it => !decide (it.homeAddress = h) := by
  induction l with
  | nil => rfl
  | cons it rest ih =>
    simp only [removeAll, List.filter_cons, ih]
    by_cases hc : it.homeAddress = h <;> simp [hc]

theorem isMobileBinded_iff (h : IPAddress) (l : MobilityBindingList) :
    isMobileBinded h l = true ↔ ∃ it ∈ l, it.homeAddress = h := by
  induction l with
  | nil => simp [isMobileBinded]
  | cons it rest ih =>
    simp only [isMobileBinded, List.mem_cons, exists_eq_or_imp]
    by_cases hc : it.homeAddress = h
    · simp [hc]
    · simp [hc, ih]

theorem isMobileBinded_eq_false_iff (h : IPAddress) (l : MobilityBindingList) :
    isMobileBinded h l = false ↔ ∀ it ∈ l, it.homeAddress ≠ h := by
  rw [← Bool.not_eq_true, isMobileBinded_iff]
  push Not
  rfl

theorem getCareOfAddress_eq (h : IPAddress) (l : MobilityBindingList) :
    getCareOfAddress h l = ((l.find? fun it => decide (it.homeAddress = h)).map
      MobilityBindingListItem.careOfAddress).getD .zero := by
  induction l with
  | nil => rfl
  | cons it rest ih =>
    by_cases hc : it.homeAddress = h
    · simp [getCareOfAddress, hc]
    · simp [getCareOfAddress, hc, ih]

theorem mem_add (h c : IPAddress) (lifetime : UInt32) (l : MobilityBindingList) :
    ⟨h, c, lifetime⟩ ∈ add h c lifetime l := by
  induction l with
  | nil => exact List.mem_singleton_self _
  | cons it rest ih =>
    unfold add
    split_ifs with hk
    · rw [← hk.1, ← hk.2]; exact List.mem_cons_self
    · exact List.mem_cons_of_mem _ ih

theorem eq_or_mem_of_mem_add {h c : IPAddress} {lifetime : UInt32} {l : MobilityBindingList}
    {it : MobilityBindingListItem} (hit : it ∈ add h c lifetime l) :
    it = ⟨h, c, lifetime⟩ ∨ it ∈ l := by
  induction l with
  | nil => exact Or.inl (List.mem_singleton.1 hit)
  | cons first rest ih =>
    unfold add at hit
    split_ifs at hit with hk
    · rcases List.mem_cons.1 hit with heq | hrest
      · rw [heq, ← hk.1, ← hk.2]; exact Or.inl rfl
      · exact Or.inr (List.mem_cons_of_mem _ hrest)
    · rcases List.mem_cons.1 hit with heq | hrest
      · exact Or.inr (heq ▸ List.mem_cons_self)
      · exact (ih hrest).imp_right (List.mem_cons_of_mem _)

theorem keys_add (h c : IPAddress) (lifetime : UInt32) (l : MobilityBindingList) :
    (add h c lifetime l).map (fun it => (it.homeAddress, it.careOfAddress)) =
      if (h, c) ∈ l.map (fun it => (it.homeAddress, it.careOfAddress)) then
        l.map (fun it => (it.homeAddress, it.careOfAddress))
      else l.map (fun it => (it.homeAddress, it.careOfAddress)) ++ [(h, c)] := by
  induction l with
  | nil => simp [add]
  | cons it rest ih =>
    unfold add
    split_ifs with hk hm hm
    · rfl
    · exact absurd (List.mem_map.2 ⟨it, List.mem_cons_self, Prod.ext hk.1 hk.2⟩) hm
    · rw [List.map_cons, ih, if_pos, List.map_cons]
      rcases List.mem_cons.1 hm with heq | hm
      · exact absurd ⟨(Prod.mk.inj heq).1.symm, (Prod.mk.inj heq).2.symm⟩ hk
      · exact hm
    · rw [List.map_cons, ih, if_neg fun hm' => hm (List.mem_cons_of_mem _ hm'), List.map_cons,
        List.cons_append]

/-- The first binding of `h` after an `add` for `h`: a binding that stood before stays first. -/
theorem find?_add (h c : IPAddress) (lifetime : UInt32) (l : MobilityBindingList) :
    ((add h c lifetime l).find? fun it => decide (it.homeAddress = h)).map
        MobilityBindingListItem.careOfAddress =
      some (((l.find? fun it => decide (it.homeAddress = h)).map
        MobilityBindingListItem.careOfAddress).getD c) := by
  induction l with
  | nil => simp [add]
  | cons it rest ih =>
    by_cases hh : it.homeAddress = h
    · by_cases hc : it.careOfAddress = c <;> simp [add, hh, hc]
    · have hne : ¬ (it.homeAddress = h ∧ it.careOfAddress = c) := fun hb => hh hb.1
      rw [add, if_neg hne, List.find?_cons_of_neg (by simpa using hh),
        List.find?_cons_of_neg (by simpa using hh), ih]

theorem isMobileBinded_add (h c : IPAddress) (lifetime : UInt32) (l : MobilityBindingList) :
    isMobileBinded h (add h c lifetime l) = true := by
  induction l with
  | nil => simp [add, isMobileBinded]
  | cons it rest ih =>
    by_cases hh : it.homeAddress = h
    · by_cases hc : it.careOfAddress = c <;> simp [add, isMobileBinded, hh, hc]
    · have hne : ¬ (it.homeAddress = h ∧ it.careOfAddress = c) := fun hb => hh hb.1
      rw [add, if_neg hne, isMobileBinded, if_neg hh, ih]

theorem getCareOfAddress_add_iff (h c : IPAddress) (lifetime : UInt32) (l : MobilityBindingList) :
    getCareOfAddress h (add h c lifetime l) = c ↔
      ∀ it, l.find? (fun it => decide (it.homeAddress = h)) = some it → it.careOfAddress = c := by
  rw [getCareOfAddress_eq, find?_add, Option.getD_some]
  cases l.find? fun it => decide (it.homeAddress = h) <;> simp

theorem lookup_filter (h : IPAddress) (l : MobilityBindingList) :
    isMobileBinded h (l.filter fun it => decide (it.homeAddress = h)) = isMobileBinded h l ∧
      getCareOfAddress h (l.filter fun it => decide (it.homeAddress = h)) =
        getCareOfAddress h l := by
  induction l with
  | nil => exact ⟨rfl, rfl⟩
  | cons it rest ih =>
    by_cases hh : it.homeAddress = h
    · simp [isMobileBinded, getCareOfAddress, hh]
    · simp [isMobileBinded, getCareOfAddress, hh, ih]

theorem filter_add {h : IPAddress} {l : MobilityBindingList}
    (hl : ∀ it ∈ l, it.homeAddress ≠ h) (c : IPAddress) (lifetime : UInt32) :
    (add h c lifetime l).filter (fun it => decide (it.homeAddress = h)) = [⟨h, c, lifetime⟩] := by
  induction l with
  | nil => simp [add]
  | cons it rest ih =>
    rw [List.forall_mem_cons] at hl
    rw [add, if_neg fun hk => hl.1 hk.1, List.filter_cons_of_neg (by simpa using hl.1), ih hl.2]

structure Expiring (h c : IPAddress) (it : MobilityBindingListItem) : Prop where
  homeAddress : it.homeAddress = h
  careOfAddress : it.careOfAddress = c
  pos : 0 < it.remainingLifetime.toNat
  lt : it.remainingLifetime.toNat < 65535

theorem Expiring.countDown {h c : IPAddress} (it : MobilityBindingListItem)
    (hit : Expiring h c it) :
    (it.remainingLifetime.toNat = 1 ∧ countDown it = none) ∨
      ∃ it', countDown it = some it' ∧ Expiring h c it' ∧
        it'.remainingLifetime.toNat + 1 = it.remainingLifetime.toNat := by
  obtain ⟨hh, hc, hpos, hlt⟩ := hit
  have hinf : it.remainingLifetime ≠ 65535 := by
    intro heq
    rw [heq] at hlt
    exact absurd hlt (by decide)
  unfold MobilityBindingList.countDown
  rw [if_neg hinf]
  rcases pred_cases hpos with ⟨hzero, hone⟩ | ⟨hne, hpred, hsucc⟩
  · exact Or.inl ⟨hone, if_neg (not_not.2 hzero)⟩
  · exact Or.inr ⟨_, if_pos hne, ⟨hh, hc, hpred, by dsimp only; omega⟩, hsucc⟩

theorem filter_ticks (h : IPAddress) (n : ℕ) (l : MobilityBindingList) :
    (decreaseLifetime^[n] l).filter (fun it => decide (it.homeAddress = h)) =
      (List.filterMap countDown)^[n] (l.filter fun it => decide (it.homeAddress = h)) := by
  rw [funext decreaseLifetime_eq]
  refine CountDown.filter_iterate (fun it it' hc => ?_) n l
  rw [(Prod.mk.inj (countDown_key hc)).1]

section Expiry

variable {h c : IPAddress} {n : ℕ} {l : MobilityBindingList} {it : MobilityBindingListItem}
  (hl : l.filter (fun it => decide (it.homeAddress = h)) = [it]) (hit : Expiring h c it)

include hl hit

theorem bound_of_ticks_lt (hn : n < it.remainingLifetime.toNat) :
    isMobileBinded h (decreaseLifetime^[n] l) = true ∧
      getCareOfAddress h (decreaseLifetime^[n] l) = c := by
  obtain ⟨it', hit', hI, -⟩ := CountDown.iterate_of_lt Expiring.countDown hit hn
  obtain ⟨hbound, hcareOf⟩ := lookup_filter h (decreaseLifetime^[n] l)
  rw [← hbound, ← hcareOf, filter_ticks, hl, hit']
  simp [isMobileBinded, getCareOfAddress, hI.homeAddress, hI.careOfAddress]

theorem not_bound_of_ticks_le (hn : it.remainingLifetime.toNat ≤ n) :
    isMobileBinded h (decreaseLifetime^[n] l) = false := by
  rw [← (lookup_filter h (decreaseLifetime^[n] l)).1, filter_ticks, hl,
    CountDown.iterate_of_le Expiring.countDown (fun _ hI => hI.pos) hit hn]
  rfl

end Expiry

end MobilityBindingList

namespace VisitorList

abbrev Matches (h a : IPAddress) (it : VisitorListItem) : Prop :=
  it.MNhome = h ∧ it.MNhomeAgent = a

/-- One step of `decreaseLifetime`. -/
def countDown (it : VisitorListItem) : Option VisitorListItem :=
  if it.requestedLifetime = 65535 then some it
  else if it.remainingLifetime - 1 ≠ 0 then
    some { it with remainingLifetime := it.remainingLifetime - 1 }
  else none

theorem decreaseLifetime_eq (l : VisitorList) : decreaseLifetime l = l.filterMap countDown := by
  induction l with
  | nil => rfl
  | cons it rest ih =>
    simp only [decreaseLifetime, List.filterMap_cons, countDown, ih]
    split_ifs <;> rfl

theorem countDown_key {it it' : VisitorListItem} (h : countDown it = some it') :
    (it'.MNhome, it'.MNhomeAgent) = (it.MNhome, it.MNhomeAgent) := by
  unfold countDown at h
  split_ifs at h
  · cases h; rfl
  · cases h; rfl

theorem remove_eq (h a : IPAddress) (l : VisitorList) :
    remove h a l = l.filter fun it => !decide (Matches h a it) := by
  induction l with
  | nil => rfl
  | cons it rest ih =>
    simp only [remove, List.filter_cons, ih, Matches]
    by_cases hc : it.MNhome = h ∧ it.MNhomeAgent = a
    · simp [hc]
    · rw [if_neg hc]; simp [hc]

theorem remove_sublist (h a : IPAddress) (l : VisitorList) : (remove h a l).Sublist l := by
  rw [remove_eq]
  exact List.filter_sublist

theorem resetVisitorRemainingLifetime_eq (h a : IPAddress) (l : VisitorList) :
    resetVisitorRemainingLifetime h a l = l.map fun it =>
      if Matches h a it then { it with remainingLifetime := it.requestedLifetime } else it := by
  induction l with
  | nil => rfl
  | cons it rest ih => rw [resetVisitorRemainingLifetime, List.map_cons, ih]

theorem setVisitorRequestedLifetime_eq (h a : IPAddress) (lifetime : UInt32) (l : VisitorList) :
    setVisitorRequestedLifetime h a lifetime l = l.map fun it =>
      if Matches h a it then { it with requestedLifetime := lifetime } else it := by
  induction l with
  | nil => rfl
  | cons it rest ih => rw [setVisitorRequestedLifetime, List.map_cons, ih]

theorem has_iff (h a : IPAddress) (l : VisitorList) :
    has h a l = true ↔ ∃ it ∈ l, Matches h a it := by
  induction l with
  | nil => simp [has]
  | cons it rest ih =>
    rw [has, List.exists_mem_cons_iff, ← ih]
    by_cases hc : Matches h a it
    · rw [if_pos hc]; exact ⟨fun _ => Or.inl hc, fun _ => rfl⟩
    · rw [if_neg hc]; exact (or_iff_right hc).symm

theorem has_eq_false_iff (h a : IPAddress) (l : VisitorList) :
    has h a l = false ↔ ∀ it ∈ l, ¬ Matches h a it := by
  rw [← Bool.not_eq_true, has_iff]
  push Not
  rfl

structure Expiring (h a : IPAddress) (it : VisitorListItem) : Prop where
  visitor : Matches h a it
  requested : it.requestedLifetime ≠ 65535
  pos : 0 < it.remainingLifetime.toNat

theorem Expiring.countDown {h a : IPAddress} (it : VisitorListItem) (hit : Expiring h a it) :
    (it.remainingLifetime.toNat = 1 ∧ countDown it = none) ∨
      ∃ it', countDown it = some it' ∧ Expiring h a it' ∧
        it'.remainingLifetime.toNat + 1 = it.remainingLifetime.toNat := by
  obtain ⟨hm, hinf, hpos⟩ := hit
  unfold VisitorList.countDown
  rw [if_neg hinf]
  rcases pred_cases hpos with ⟨hzero, hone⟩ | ⟨hne, hpred, hsucc⟩
  · exact Or.inl ⟨hone, if_neg (not_not.2 hzero)⟩
  · exact Or.inr ⟨_, if_pos hne, ⟨hm, hinf, hpred⟩, hsucc⟩

theorem has_of_ticks_lt {h a : IPAddress} {n : ℕ} {l : VisitorList} {it : VisitorListItem}
    (hl : it ∈ l) (hit : Expiring h a it) (hn : n < it.remainingLifetime.toNat) :
    has h a (decreaseLifetime^[n] l) = true := by
  obtain ⟨it', hmem, hI⟩ := CountDown.mem_iterate_of_lt Expiring.countDown hl hit hn
  rw [funext decreaseLifetime_eq, has_iff]
  exact ⟨it', hmem, hI.visitor⟩

end VisitorList

namespace RequestList

/-- One step of `decreaseLifetime`. -/
def countDown (it : RequestListItem) : Option RequestListItem :=
  if it.requestedLifetime = 65535 ∨ it.requestedLifetime = 0 then some it
  else if it.remainingLifetime ≠ 0 then
    some { it with remainingLifetime := it.remainingLifetime - 1 }
  else none

/-- One step of `removeTimedOutRequests`, before the comparison. -/
def wait (it : RequestListItem) : RequestListItem := { it with waitingTime := it.waitingTime + 1 }

theorem decreaseLifetime_eq (l : RequestList) : decreaseLifetime l = l.filterMap countDown := by
  induction l with
  | nil => rfl
  | cons it rest ih =>
    simp only [decreaseLifetime, List.filterMap_cons, countDown, ih]
    split_ifs <;> simp_all

theorem removeTimedOutRequests_eq (seconds : UInt32) (l : RequestList) :
    removeTimedOutRequests seconds l =
      ((l.map wait).filter (fun it => !decide (it.waitingTime ≤ seconds)),
        (l.map wait).filter (fun it => decide (it.waitingTime ≤ seconds))) := by
  induction l with
  | nil => rfl
  | cons it rest ih =>
    simp only [removeTimedOutRequests, ih, List.map_cons, List.filter_cons, wait]
    by_cases h : it.waitingTime + 1 ≤ seconds <;> simp [h]

theorem has_iff (d c : IPAddress) (l : RequestList) :
    has d c l = true ↔ ∃ it ∈ l, it.destination = d ∧ it.careOfAddress = c := by
  induction l with
  | nil => simp [has]
  | cons it rest ih =>
    simp only [has, List.mem_cons, exists_eq_or_imp, ← ih]
    by_cases hc : it.destination = d ∧ it.careOfAddress = c
    · simp [hc]
    · rw [if_neg hc]; simp [hc]

theorem remove_ok {i : UInt32} {l rest : RequestList} {it : RequestListItem}
    (h : remove i l = .ok (it, rest)) :
    ∃ pre post, l = pre ++ it :: post ∧ rest = pre ++ post ∧ it.identification = i ∧
      ∀ x ∈ pre, x.identification ≠ i := by
  induction l generalizing rest with
  | nil => simp [remove] at h
  | cons x l ih =>
    by_cases hx : x.identification = i
    · simp only [remove, if_pos hx, Except.ok.injEq, Prod.mk.injEq] at h
      obtain ⟨rfl, rfl⟩ := h
      exact ⟨[], l, rfl, rfl, hx, by simp⟩
    · simp only [remove, if_neg hx] at h
      cases hr : remove i l with
      | error e => simp [hr] at h
      | ok res =>
        obtain ⟨out, rest'⟩ := res
        simp only [hr, Except.ok.injEq, Prod.mk.injEq] at h
        obtain ⟨rfl, rfl⟩ := h
        obtain ⟨pre, post, rfl, rfl, hi, hpre⟩ := ih hr
        refine ⟨x :: pre, post, rfl, rfl, hi, ?_⟩
        intro y hy
        rcases List.mem_cons.1 hy with rfl | hy
        · exact hx
        · exact hpre y hy

theorem remove_append_cons {i : UInt32} {pre : RequestList} {it : RequestListItem}
    (hi : it.identification = i) (hpre : ∀ x ∈ pre, x.identification ≠ i) (post : RequestList) :
    remove i (pre ++ it :: post) = .ok (it, pre ++ post) := by
  induction pre with
  | nil => simp [remove, hi]
  | cons x pre ih =>
    rw [List.cons_append, remove, if_neg (hpre x (by simp)), ih fun y hy => hpre y (by simp [hy]),
      List.cons_append]

theorem remove_append_last {i : UInt32} {l : RequestList} {it : RequestListItem}
    (hi : it.identification = i) (hl : ∀ x ∈ l, x.identification ≠ i) :
    remove i (l ++ [it]) = .ok (it, l) := by
  rw [remove_append_cons hi hl, List.append_nil]

theorem remove_error {i : UInt32} {l : RequestList} {e : Exception} (h : remove i l = .error e) :
    e = .requestNotFound "identification" := by
  induction l with
  | nil => exact (Except.error.inj h).symm
  | cons x l ih =>
    rw [remove] at h
    split_ifs at h
    split at h
    · next hr =>
      cases h
      exact ih hr
    · cases h

theorem remove_error_iff {i : UInt32} {l : RequestList} :
    remove i l = .error (.requestNotFound "identification") ↔ ∀ x ∈ l, x.identification ≠ i := by
  induction l with
  | nil => simp [remove]
  | cons x l ih =>
    by_cases hx : x.identification = i
    · simp [remove, hx]
    · rw [List.forall_mem_cons, ← ih, remove, if_neg hx, and_iff_right hx]
      cases remove i l with
      | error e => rfl
      | ok res => exact iff_of_false (by simp) (by simp)

theorem getLastRequest_append (l : RequestList) (it : RequestListItem) :
    getLastRequest (l ++ [it]) = .ok it := by
  simp [getLastRequest]

end RequestList

end MobileIP
