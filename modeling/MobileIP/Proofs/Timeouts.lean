import MobileIP.Lib.DelayLine
import MobileIP.Proofs.Lists
import MobileIP.Spec.Definitions

/-! The pending requests that time out: each of them is returned once, when it has waited longer
than the timeout, and in the order in which they were added. -/

namespace MobileIP

namespace RequestList

open DelayLine

variable (seconds : UInt32)

def timeOut (it : RequestListItem) : RequestListItem ⊕ RequestListItem :=
  if (wait it).waitingTime ≤ seconds then .inr (wait it) else .inl (wait it)

/-- The requests that each call of `removeTimedOutRequests` returns, and the list at the end. -/
def runCalls : RequestList → List (Op RequestListItem) → List (List RequestListItem) × RequestList
  | l, [] => ([], l)
  | l, .add it :: ops => runCalls (add it l) ops
  | l, .collect :: ops =>
    let (timedOut, l) := removeTimedOutRequests seconds l
    let (returned, l) := runCalls l ops
    (timedOut :: returned, l)

theorem removeTimedOutRequests_eq_collect (l : RequestList) :
    removeTimedOutRequests seconds l = collect (timeOut seconds) l := by
  induction l with
  | nil => rfl
  | cons it rest ih =>
    simp only [removeTimedOutRequests, ih, collect, List.filterMap_cons, timeOut]
    by_cases h : (wait it).waitingTime ≤ seconds
    · have h' : it.waitingTime + 1 ≤ seconds := h
      simp [h', wait]
    · have h' : ¬ it.waitingTime + 1 ≤ seconds := h
      simp [h', wait]

theorem runCalls_eq_run (l : RequestList) (ops : List (Op RequestListItem)) :
    runCalls seconds l ops = run (timeOut seconds) l ops := by
  induction ops generalizing l with
  | nil => rfl
  | cons op ops ih =>
    cases op with
    | add it => exact ih (add it l)
    | collect => simp only [runCalls, run, removeTimedOutRequests_eq_collect, ih]

variable {seconds}

theorem toNat_wait (hs : seconds.toNat < 2 ^ 32 - 1) (it : RequestListItem)
    (hle : it.waitingTime.toNat ≤ seconds.toNat) :
    (wait it).waitingTime.toNat = it.waitingTime.toNat + 1 := by
  change (it.waitingTime + 1).toNat = _
  rw [UInt32.toNat_add]
  change (_ + 1) % 2 ^ 32 = _
  omega

theorem leaves_timeOut (hs : seconds.toNat < 2 ^ 32 - 1) {n : ℕ} {it : RequestListItem}
    (hn : it.waitingTime.toNat + n = seconds.toNat) :
    Leaves (timeOut seconds) n it { it with waitingTime := seconds + 1 } := by
  induction n generalizing it with
  | zero =>
    have hwait := toNat_wait hs it (by omega)
    have hexceeds : ¬ (wait it).waitingTime ≤ seconds := by
      rw [UInt32.le_iff_toNat_le]
      omega
    refine .now ?_
    rw [timeOut, if_neg hexceeds, wait, UInt32.toNat_inj.1 hn]
  | succ n ih =>
    have hwait := toNat_wait hs it (by omega)
    have hwithin : (wait it).waitingTime ≤ seconds := by
      rw [UInt32.le_iff_toNat_le]
      omega
    have hnext : timeOut seconds it = .inr (wait it) := by
      rw [timeOut, if_pos hwithin]
    exact .later hnext (ih (by omega))

/-- A call returns the requests that have waited longer than the timeout and keeps the others, both
in order, and none is lost or returned twice. Over any calls a request that is added is returned
once, by the call that follows `seconds` others, and nothing else is changed by it. -/
theorem timed_out_once (hs : seconds.toNat < 2 ^ 32 - 1) :
    (∀ l, removeTimedOutRequests seconds l =
        ((l.map wait).filter (fun it => decide (seconds < it.waitingTime)),
          (l.map wait).filter (fun it => !decide (seconds < it.waitingTime))) ∧
      ((removeTimedOutRequests seconds l).1 ++ (removeTimedOutRequests seconds l).2).Perm
        (l.map wait)) ∧
    ∀ l pre it post, it.waitingTime = 0 → ∀ k < collections (pre ++ post), ∃ before after,
      (runCalls seconds l (pre ++ post)).1.getD k [] = before ++ after ∧
      (runCalls seconds l (pre ++ .add it :: post)).1.getD k [] =
        before ++ (if k = collections pre + seconds.toNat then
          [{ it with waitingTime := seconds + 1 }] else []) ++ after := by
  refine ⟨fun l => ?_, ?_⟩
  · have heq : removeTimedOutRequests seconds l =
        ((l.map wait).filter (fun it => decide (seconds < it.waitingTime)),
          (l.map wait).filter (fun it => !decide (seconds < it.waitingTime))) := by
      simp only [removeTimedOutRequests_eq, ← UInt32.not_le, decide_not, Bool.not_not]
    rw [heq]
    exact ⟨rfl, List.filter_append_perm _ _⟩
  · intro l pre it post h0 k hk
    simp only [runCalls_eq_run]
    refine (leaves_timeOut hs ?_).inserted l pre post hk
    rw [h0]
    exact Nat.zero_add _

section Examples

open Definitions

def pendingRequest : RequestListItem where
  destination := homeAgentPublicAddress
  careOfAddress := foreignAgentPublicAddress
  identification := 7
  rr := (requestFrom 100 7).request
  ttl := 1
  requestedLifetime := 100
  remainingLifetime := 100

theorem timed_out_once_second :
    (runCalls 1 [] [.add pendingRequest, .collect, .collect]).1.getD 1 [] =
      [{ pendingRequest with waitingTime := 2 }] := by
  obtain ⟨before, after, hwithout, hwith⟩ := (timed_out_once (show (1 : UInt32).toNat < 2 ^ 32 - 1
    by decide)).2 [] [] pendingRequest [.collect, .collect] rfl 1 (by decide)
  obtain ⟨rfl, rfl⟩ := List.append_eq_nil_iff.1 hwithout.symm
  exact hwith

end Examples

end RequestList

end MobileIP
