import MobileIP.Proofs.ForeignAgent
import MobileIP.Spec.Definitions

/-! The two removal passes of a tick of the foreign agent: when every pending request that they take
out of the list is answered. -/

namespace MobileIP

namespace RequestListItem

/-- What `relayRequest` enters and the ticks keep: the identification is that of the request, and
the lifetime left and the time waited make up the lifetime requested. -/
structure Pending (it : RequestListItem) : Prop where
  identification : it.rr.identification = it.identification
  bound : it.requestedLifetime.toNat ≤ 65535
  sum : it.requestedLifetime ≠ 0 → it.requestedLifetime ≠ 65535 →
    it.remainingLifetime.toNat + it.waitingTime.toNat = it.requestedLifetime.toNat

def TimesOut (T : UInt32) (it : RequestListItem) : Prop :=
  it.requestedLifetime = 0 ∨ it.requestedLifetime = 65535 ∨
    (it.remainingLifetime ≠ 0 ∧ T < it.requestedLifetime)

end RequestListItem

namespace RequestList

def tick (T : UInt32) (it : RequestListItem) : Option RequestListItem :=
  ((countDown it).map wait).filter fun it => decide (it.waitingTime ≤ T)

theorem countDown_eq_none_iff {it : RequestListItem} :
    countDown it = none ↔
      it.requestedLifetime ≠ 65535 ∧ it.requestedLifetime ≠ 0 ∧ it.remainingLifetime = 0 := by
  unfold countDown
  split_ifs with h1 h2
  · rcases h1 with h | h <;> simp [h]
  · simp [h2]
  · simp only [not_or, not_not] at h1 h2
    simp [h1, h2]

theorem countDown_some {it it' : RequestListItem} (h : countDown it = some it') :
    (it.requestedLifetime = 65535 ∨ it.requestedLifetime = 0) ∧ it' = it ∨
      it.requestedLifetime ≠ 65535 ∧ it.requestedLifetime ≠ 0 ∧ it.remainingLifetime ≠ 0 ∧
        it' = { it with remainingLifetime := it.remainingLifetime - 1 } := by
  unfold countDown at h
  split_ifs at h with h1 h2
  · exact Or.inl ⟨h1, (Option.some.inj h).symm⟩
  · simp only [not_or] at h1
    exact Or.inr ⟨h1.1, h1.2, h2, (Option.some.inj h).symm⟩

theorem tick_eq_some_iff {T : UInt32} {it it' : RequestListItem} :
    tick T it = some it' ↔
      ∃ c, countDown it = some c ∧ wait c = it' ∧ it'.waitingTime ≤ T := by
  unfold tick
  cases countDown it with
  | none => simp
  | some c =>
    simp only [Option.map_some, Option.filter_eq_some_iff, Option.some.injEq, decide_eq_true_eq]
    constructor
    · intro hkept
      obtain ⟨rfl, h⟩ := hkept
      exact ⟨c, rfl, rfl, h⟩
    · intro hkept
      obtain ⟨_, rfl, rfl, h⟩ := hkept
      exact ⟨rfl, h⟩

theorem toNat_waitingTime_wait {it : RequestListItem} (h : it.waitingTime.toNat ≤ 65535) :
    (wait it).waitingTime.toNat = it.waitingTime.toNat + 1 := by
  change (it.waitingTime + 1).toNat = _
  rw [UInt32.toNat_add]
  change (it.waitingTime.toNat + 1) % 4294967296 = _
  omega

end RequestList

namespace MobileIPForeignAgent

open RequestList RequestListItem

variable {fa fa₀ : MobileIPForeignAgent} {it it' : RequestListItem} {T : UInt32}

theorem tick_counts (h : it.Pending) (hinf : it.requestedLifetime ≠ 65535)
    (h0 : it.requestedLifetime ≠ 0) {c : RequestListItem} (hc : countDown it = some c) :
    it.remainingLifetime ≠ 0 ∧ (wait c).requestedLifetime = it.requestedLifetime ∧
      (wait c).remainingLifetime.toNat + 1 = it.remainingLifetime.toNat ∧
      (wait c).waitingTime.toNat = it.waitingTime.toNat + 1 := by
  have hsum := h.sum h0 hinf
  have hbound := h.bound
  rcases countDown_some hc with ⟨h1 | h1, -⟩ | ⟨-, -, hrem, rfl⟩
  · exact absurd h1 hinf
  · exact absurd h1 h0
  · have hpred := toNat_pred hrem
    have hpos := toNat_ne_zero.2 hrem
    refine ⟨hrem, rfl, ?_, toNat_waitingTime_wait (by dsimp only; omega)⟩
    change (it.remainingLifetime - 1).toNat + 1 = _
    omega

theorem countDown_identification {c : RequestListItem} (hc : countDown it = some c) :
    c.identification = it.identification ∧ c.rr = it.rr ∧
      c.requestedLifetime = it.requestedLifetime := by
  rcases countDown_some hc with ⟨-, rfl⟩ | ⟨-, -, -, rfl⟩ <;> exact ⟨rfl, rfl, rfl⟩

theorem pending_tick (h : it.Pending) (ht : tick T it = some it') : it'.Pending := by
  obtain ⟨c, hc, rfl, -⟩ := tick_eq_some_iff.1 ht
  obtain ⟨hid, hrr, hreq⟩ := countDown_identification hc
  refine ⟨?_, ?_, ?_⟩
  · change c.rr.identification = c.identification
    rw [hrr, hid]; exact h.identification
  · change c.requestedLifetime.toNat ≤ 65535
    rw [hreq]; exact h.bound
  · change c.requestedLifetime ≠ 0 → c.requestedLifetime ≠ 65535 → _
    rw [hreq]
    intro h0 hinf
    obtain ⟨-, hreq', hrem, hwait⟩ := tick_counts h hinf h0 hc
    have := h.sum h0 hinf
    rw [hreq']
    omega

theorem timesOut_tick (h : it.Pending) (hT : it.TimesOut T) (ht : tick T it = some it') :
    it'.TimesOut T := by
  obtain ⟨c, hc, rfl, hle⟩ := tick_eq_some_iff.1 ht
  have hreq : (wait c).requestedLifetime = it.requestedLifetime := (countDown_identification hc).2.2
  rcases hT with h0 | hinf | ⟨-, hlt⟩
  · exact Or.inl (hreq.trans h0)
  · exact Or.inr (Or.inl (hreq.trans hinf))
  · by_cases h0 : it.requestedLifetime = 0
    · exact Or.inl (hreq.trans h0)
    by_cases hinf : it.requestedLifetime = 65535
    · exact Or.inr (Or.inl (hreq.trans hinf))
    refine Or.inr (Or.inr ⟨?_, hreq ▸ hlt⟩)
    -- with no lifetime left the request would have waited longer than `T`
    obtain ⟨-, -, hrem, hwait⟩ := tick_counts h hinf h0 hc
    have hsum := h.sum h0 hinf
    rw [UInt32.le_iff_toNat_le] at hle
    rw [UInt32.lt_iff_toNat_lt] at hlt
    exact toNat_ne_zero.1 (by omega)

theorem not_timesOut_tick (h : it.Pending) (hT : ¬ it.TimesOut T)
    (hrem : it.remainingLifetime ≠ 0) :
    ∃ it', tick T it = some it' ∧ ¬ it'.TimesOut T ∧
      it'.remainingLifetime.toNat + 1 = it.remainingLifetime.toNat := by
  simp only [TimesOut, not_or, not_and] at hT
  obtain ⟨h0, hinf, hle⟩ := hT
  have hle := hle hrem
  cases hc : countDown it with
  | none => exact absurd (countDown_eq_none_iff.1 hc).2.2 hrem
  | some c =>
    obtain ⟨-, hreq, hrem', hwait⟩ := tick_counts h hinf h0 hc
    have hsum := h.sum h0 hinf
    rw [UInt32.lt_iff_toNat_lt] at hle
    refine ⟨wait c, tick_eq_some_iff.2 ⟨c, hc, rfl, ?_⟩, ?_, hrem'⟩
    · rw [UInt32.le_iff_toNat_le]
      omega
    · intro hgone
      rcases hgone with h | h | ⟨-, h⟩
      · exact h0 (hreq ▸ h)
      · exact hinf (hreq ▸ h)
      · rw [hreq, UInt32.lt_iff_toNat_lt] at h
        omega

/-- Every request that the tick takes out of the list is answered by one reply with code 78. -/
structure TickAnswers (fa : MobileIPForeignAgent) (clock : ℕ → Clock) : Prop where
  replies : ∀ e ∈ (fa.runTimer clock).2, e.output = 0 ∧ e.code = some 78
  answered : (fa.requests.map RequestListItem.identification).Perm
    ((fa.runTimer clock).1.requests.map RequestListItem.identification ++
      (fa.runTimer clock).2.map Emission.identification)

theorem sendRequestTimedOutReply_spec (fa : MobileIPForeignAgent) (clock : ℕ → Clock)
    (requests : List RequestListItem) :
    (∀ e ∈ fa.sendRequestTimedOutReply clock requests, e.output = 0 ∧ e.code = some 78) ∧
      (fa.sendRequestTimedOutReply clock requests).map Emission.identification =
        requests.map fun it => it.rr.identification := by
  induction requests generalizing clock with
  | nil => simp [sendRequestTimedOutReply]
  | cons request requests ih =>
    obtain ⟨hcode, hid⟩ := ih fun i => clock (i + 1)
    simp only [sendRequestTimedOutReply, sendReply, List.singleton_append, List.forall_mem_cons,
      List.map_cons, hid]
    exact ⟨⟨⟨trivial, rfl⟩, hcode⟩, rfl⟩

theorem runTimer_requests (fa : MobileIPForeignAgent) (clock : ℕ → Clock) :
    (fa.runTimer clock).1.requests = fa.requests.filterMap (tick fa.requestTimeout) := by
  simp only [runTimer, decreaseLifetime_eq, removeTimedOutRequests_eq, List.map_filterMap,
    List.filter_filterMap]
  rfl

theorem tickAnswers_iff (h : ∀ it ∈ fa.requests, it.Pending) (clock : ℕ → Clock) :
    fa.TickAnswers clock ↔ ∀ it ∈ fa.requests, countDown it ≠ none := by
  let kept := (fa.requests.filterMap countDown).map wait
  have hkept : ∀ it ∈ kept, it.rr.identification = it.identification := by
    intro it hit
    obtain ⟨c, hc, rfl⟩ := List.mem_map.1 hit
    obtain ⟨it₀, hit₀, hc⟩ := List.mem_filterMap.1 hc
    obtain ⟨hid, hrr, -⟩ := countDown_identification hc
    change c.rr.identification = c.identification
    rw [hrr, hid]
    exact (h it₀ hit₀).identification
  -- what stays and what is reported make up the requests the first pass keeps
  have hperm : ((fa.runTimer clock).1.requests.map RequestListItem.identification ++
      (fa.runTimer clock).2.map Emission.identification).Perm
        (kept.map RequestListItem.identification) := by
    have hout : (fa.runTimer clock).2.map Emission.identification =
        (kept.filter fun it => !decide (it.waitingTime ≤ fa.requestTimeout)).map
          RequestListItem.identification := by
      simp only [runTimer, decreaseLifetime_eq, removeTimedOutRequests_eq,
        (sendRequestTimedOutReply_spec _ _ _).2]
      exact List.map_congr_left fun it hit => hkept it (List.mem_filter.1 hit).1
    have hstay : (fa.runTimer clock).1.requests =
        kept.filter fun it => decide (it.waitingTime ≤ fa.requestTimeout) := by
      simp only [runTimer, decreaseLifetime_eq, removeTimedOutRequests_eq]
      rfl
    rw [hout, hstay, ← List.map_append]
    exact (List.filter_append_perm _ kept).map _
  constructor
  · intro hans it hit hnone
    have hlen := (hans.answered.trans hperm).length_eq
    simp only [kept, List.length_map] at hlen
    have hsome := List.filterMap_length_eq_length.1 hlen.symm it hit
    simp [hnone] at hsome
  · intro hall
    refine ⟨(sendRequestTimedOutReply_spec _ _ _).1, List.Perm.trans ?_ hperm.symm⟩
    have hid : kept.map RequestListItem.identification =
        fa.requests.map RequestListItem.identification := by
      simp only [kept, List.map_filterMap]
      rw [← List.filterMap_eq_map]
      refine List.filterMap_congr fun it hit => ?_
      obtain ⟨c, hc⟩ := Option.ne_none_iff_exists'.1 (hall it hit)
      rw [hc]
      exact congrArg some (countDown_identification hc).1
    rw [hid]

def afterTicks (fa : MobileIPForeignAgent) (clock : ℕ → ℕ → Clock) : ℕ → MobileIPForeignAgent
  | 0 => fa
  | n + 1 => ((fa.afterTicks clock n).runTimer (clock n)).1

theorem afterTicks_requestTimeout (fa : MobileIPForeignAgent) (clock : ℕ → ℕ → Clock) (n : ℕ) :
    (fa.afterTicks clock n).requestTimeout = fa.requestTimeout := by
  induction n with
  | zero => rfl
  | succ n ih => exact ih

theorem mem_afterTicks_succ {clock : ℕ → ℕ → Clock} {n : ℕ} :
    it ∈ (fa.afterTicks clock (n + 1)).requests ↔
      ∃ it₀ ∈ (fa.afterTicks clock n).requests, tick fa.requestTimeout it₀ = some it := by
  rw [afterTicks, runTimer_requests, afterTicks_requestTimeout, List.mem_filterMap]

theorem pending_afterTicks (h : ∀ it ∈ fa.requests, it.Pending) (clock : ℕ → ℕ → Clock) (n : ℕ) :
    ∀ it ∈ (fa.afterTicks clock n).requests, it.Pending := by
  induction n with
  | zero => exact h
  | succ n ih =>
    intro it hit
    obtain ⟨it₀, hit₀, ht⟩ := mem_afterTicks_succ.1 hit
    exact pending_tick (ih it₀ hit₀) ht

theorem exists_expired (h : ∀ it ∈ fa.requests, it.Pending) (clock : ℕ → ℕ → Clock)
    (hit : it ∈ fa.requests) (hT : ¬ it.TimesOut fa.requestTimeout) :
    ∀ n ≤ it.remainingLifetime.toNat, ∃ it' ∈ (fa.afterTicks clock n).requests,
      ¬ it'.TimesOut fa.requestTimeout ∧
        it'.remainingLifetime.toNat + n = it.remainingLifetime.toNat := by
  intro n
  induction n with
  | zero => exact fun _ => ⟨it, hit, hT, rfl⟩
  | succ n ih =>
    intro hn
    obtain ⟨it', hit', hT', hrem'⟩ := ih (by omega)
    obtain ⟨it'', ht, hT'', hrem''⟩ := not_timesOut_tick (pending_afterTicks h clock n it' hit') hT'
      (toNat_ne_zero.1 (by omega))
    exact ⟨it'', mem_afterTicks_succ.2 ⟨it', hit', ht⟩, hT'', by omega⟩

theorem timesOut_afterTicks (h : ∀ it ∈ fa.requests, it.Pending)
    (hT : ∀ it ∈ fa.requests, it.TimesOut fa.requestTimeout) (clock : ℕ → ℕ → Clock) (n : ℕ) :
    ∀ it ∈ (fa.afterTicks clock n).requests, it.TimesOut fa.requestTimeout := by
  induction n with
  | zero => exact hT
  | succ n ih =>
    intro it hit
    obtain ⟨it₀, hit₀, ht⟩ := mem_afterTicks_succ.1 hit
    exact timesOut_tick (pending_afterTicks h clock n it₀ hit₀) (ih it₀ hit₀) ht

/-- Over any number of ticks every request taken out of the list is answered, exactly when every
request in it times out before its lifetime ends. -/
theorem ticks_answer_iff (h : ∀ it ∈ fa.requests, it.Pending) :
    (∀ clock n, (fa.afterTicks clock n).TickAnswers (clock n)) ↔
      ∀ it ∈ fa.requests, it.TimesOut fa.requestTimeout := by
  constructor
  · intro hans it hit
    by_contra hT
    let clock : ℕ → ℕ → Clock := fun _ _ => ⟨0, 0⟩
    obtain ⟨it', hit', hT', hrem'⟩ := exists_expired h clock hit hT _ le_rfl
    have hkeep := (tickAnswers_iff (pending_afterTicks h clock _) _).1
      (hans clock it.remainingLifetime.toNat) it' hit'
    simp only [TimesOut, not_or] at hT'
    refine hkeep (countDown_eq_none_iff.2 ⟨hT'.2.1, hT'.1, ?_⟩)
    by_contra hne
    exact toNat_ne_zero.2 hne (by omega)
  · intro hT clock n
    rw [tickAnswers_iff (pending_afterTicks h clock n)]
    intro it hit hnone
    obtain ⟨hinf, h0, hrem⟩ := countDown_eq_none_iff.1 hnone
    rcases timesOut_afterTicks h hT clock n it hit with h' | h' | ⟨h', -⟩
    · exact h0 h'
    · exact hinf h'
    · exact h' hrem

theorem pending_step {e : FAEvent} {out : List Emission} {fa' : MobileIPForeignAgent}
    (h : ∀ it ∈ fa.requests, it.Pending) (hs : fa.step e = .ok (fa', out)) :
    ∀ it ∈ fa'.requests, it.Pending := by
  rcases step_cases hs with ⟨_, ttl, registration, ⟨p, -, -, hreg⟩, hrel⟩ | ⟨_, _, -, hrel⟩ |
    ⟨clock, -, htick⟩ | ⟨-, -, hreq, -, -⟩
  · rcases relayRequest_cases hrel with rfl | rfl
    · exact h
    · intro it hit
      rcases List.mem_append.1 hit with hit | hit
      · exact h it hit
      · rw [List.mem_singleton.1 hit]
        exact ⟨rfl, (processRegistrationRequestPacket_fields hreg).2, fun _ _ => rfl⟩
  · rcases relayReply_cases hrel with ⟨_, hsub, rfl, -, -⟩ | ⟨_, _, -, hsub, rfl, -⟩
    · exact fun it hit => h it (hsub.subset hit)
    · exact fun it hit => h it (hsub.subset hit)
  · intro it hit
    have hfst : fa' = (fa.runTimer clock).1 := by rw [htick]
    rw [hfst, runTimer_requests] at hit
    obtain ⟨it₀, hit₀, ht⟩ := List.mem_filterMap.1 hit
    exact pending_tick (h it₀ hit₀) ht
  · rw [hreq]; exact h

/-- In a reachable state, for any time-out `T`, the ticks that follow answer every request that
they take out, exactly when every pending request times out before its lifetime ends. -/
theorem removed_requests_answered_iff {tr : Machine.Trace MobileIPForeignAgent FAEvent Emission}
    (h0 : fa₀.requests = []) (hrun : Machine.Run MobileIPForeignAgent.step fa₀ tr fa) (T : UInt32) :
    (∀ clock n, ({ fa with requestTimeout := T }.afterTicks clock n).TickAnswers (clock n)) ↔
      ∀ it ∈ fa.requests, it.TimesOut T := by
  have hpending : ∀ it ∈ fa.requests, it.Pending :=
    Machine.Run.invariant (I := fun s => ∀ it ∈ s.requests, it.Pending) (by simp [h0])
      (fun _ _ _ _ => pending_step) hrun
  have hpending' : ∀ it ∈ { fa with requestTimeout := T }.requests, it.Pending := hpending
  exact ticks_answer_iff hpending'

section Examples

open Definitions

theorem removed_requests_answered_long :
    ∃ tr fa, Machine.Run MobileIPForeignAgent.step foreignAgent tr fa ∧ fa.requests.length = 1 ∧
      ∀ clock n, ({ fa with requestTimeout := 7 }.afterTicks clock n).TickAnswers (clock n) := by
  have hreq : ReceivesRequest (requestArrives (requestFrom 100 9)) ⟨0, 0⟩ 0
      (requestFrom 100 9).request := ⟨_, rfl, by decide +kernel, by decide +kernel⟩
  have hrun := Machine.Run.nil.snoc (hreq.step foreignAgent)
  refine ⟨_, _, hrun, by decide, (removed_requests_answered_iff rfl hrun 7).2 ?_⟩
  unfold TimesOut
  decide

/-- A request for 5 seconds that is not answered is dropped in silence by the sixth tick, before the
7 seconds of the time-out have passed. -/
theorem removed_request_not_answered :
    ¬ ∀ tr fa, Machine.Run MobileIPForeignAgent.step foreignAgent tr fa → ∀ T clock n,
      ({ fa with requestTimeout := T }.afterTicks clock n).TickAnswers (clock n) := by
  intro h
  have hreq : ReceivesRequest (requestArrives (requestFrom 5 9)) ⟨0, 0⟩ 0
      (requestFrom 5 9).request := ⟨_, rfl, by decide +kernel, by decide +kernel⟩
  have hans := (h _ _ (Machine.Run.nil.snoc (hreq.step foreignAgent)) 7
    (fun _ _ => ⟨0, 0⟩) 5).answered
  exact absurd hans.length_eq (by decide)

end Examples

end MobileIPForeignAgent

end MobileIP
