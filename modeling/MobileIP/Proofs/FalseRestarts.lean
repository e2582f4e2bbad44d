import MobileIP.Proofs.AgentReset

/-! When the host takes an advertisement of an agent that has not restarted for the first one after a
restart: where it has missed one before. -/

namespace MobileIP

section Restarts

open MobileIPAdvertiser MobileHost

variable {a₀ a : MobileIPAdvertiser} {sent : Machine.Trace MobileIPAdvertiser AdvertiserEvent Packet}
  {h₀ h : MobileHost} {x : Machine.Entry MobileHost HostEvent Emission}
  {tr : Machine.Trace MobileHost HostEvent Emission} {s : Sent} {pre post : List Sent}
  {received : List (Sent × Machine.Entry MobileHost HostEvent Emission)}

theorem forall₂_false_iff {l : List (Sent × Machine.Entry MobileHost HostEvent Emission)}
    {vs : List Bool} (hl : List.Forall₂ (fun r v => (Resets r.2 ↔ v = true) ∧
      (r.2.out ≠ [] ↔ v = true)) l vs) :
    (∀ r ∈ l, ¬ Resets r.2 ∧ r.2.out = []) ↔ ∀ v ∈ vs, v = false := by
  induction hl with
  | nil => simp
  | @cons r v l vs hr _ ih =>
    have hout : r.2.out = [] ↔ v = false := by
      rw [← not_ne_iff, hr.2, Bool.not_eq_true]
    rw [List.forall_mem_cons, List.forall_mem_cons, ih, hr.1, Bool.not_eq_true, hout, and_self]

/-- Where the agent never restarts, the host takes no advertisement for the first after a restart,
and sends nothing on account of one, exactly if each that it hears with a number below 256 follows
on the one it heard before. One whose checksum is 0 is not heard. -/
theorem no_false_restart_iff (h0 : a₀.sequenceNumber = 0)
    (hsends : Machine.Run MobileIPAdvertiser.step a₀ sent a)
    (hnever : ∀ e ∈ sent, e.event ≠ .restart)
    (hrun : Machine.Run MobileHost.step h₀ (x :: tr) h)
    (hatt : Attached a₀.linkAddress s x received tr) (hlink : a₀.linkAddress ≠ .zero)
    (hsent : sends false sent = pre ++ s :: post) (hsub : (received.map Prod.fst).Sublist post) :
    (∀ r ∈ received, ¬ Resets r.2 ∧ r.2.out = []) ↔
      (s.message :: heard received).IsChain (Numbering.Gapless 256) := by
  obtain ⟨hnum, hle⟩ := numbered_after h0 hsends hsent
  obtain ⟨rfl, hx, hrest⟩ := hrun.uncons
  have hcount := hatt.count hx (hle s (by simp)).2 (Or.inr hlink)
  -- what is heard is some of what is sent, where the numbers below 256 go up
  have hheard : (s.message :: heard received).Sublist ((pre ++ s :: post).map Sent.message) := by
    have hfilter : (heard received).Sublist ((received.map Prod.fst).map Sent.message) := by
      rw [heard, List.map_map]
      exact List.filter_sublist.map _
    rw [List.map_append, List.map_cons]
    exact ((hfilter.trans (hsub.map _)).cons_cons _).trans (List.sublist_append_right _ _)
  have hnot : ∀ m ∈ (pre ++ s :: post).map Sent.message, m.restarted = false := by
    intro m hm
    obtain ⟨s', hs', rfl⟩ := List.mem_map.1 hm
    exact sends_not_restarted hnever s' (hsent ▸ hs')
  have hinc := (hnum.pairwise hnot).sublist hheard
  obtain ⟨hverdicts, hunread⟩ := receives_verdicts hrest hatt.receives hatt.connects.2
    (home_step hx ▸ hatt.foreign) hatt.stays
    (fun r hr => hle r.1 (by simp [hsub.subset (List.mem_map_of_mem (f := Prod.fst) hr)]))
    (fun _ _ => Or.inr hlink) hcount
    (Numbering.within_of_pairwise (by omega) hinc fun _ => rfl)
  rw [← Numbering.verdicts_eq_false_iff hinc fun _ => rfl, ← forall₂_false_iff hverdicts]
  constructor
  · exact fun hall r hr => hall r (List.mem_filter.1 hr).1
  · intro hall r hr
    by_cases hread : r.1.Readable
    · exact hall r (List.mem_filter.2 ⟨hr, decide_eq_true hread⟩)
    · exact hunread r hr hread

section Examples

open Definitions

/-- The host hears the first two advertisements of the agent, and misses the third. -/
theorem no_false_restart_second : ¬ Resets (reading visitor (broadcast 1 false)) := by
  let x := reading mobileHost (broadcast 0 false)
  let y := reading visitor (broadcast 1 false)
  have hrun : Machine.Run MobileHost.step mobileHost [x, y] y.after :=
    (Machine.Run.nil.snoc (step_reading (readable_broadcast 0 false) mobileHost)).snoc
      (step_reading (readable_broadcast 1 false) visitor)
  have hsent : sends false (Machine.exec MobileIPAdvertiser.step agent
      [.runTimer, .runTimer, .runTimer]).1 =
        [] ++ broadcast 0 false :: [broadcast 1 false, broadcast 2 false] := by decide
  have hatt : Attached agent.linkAddress (broadcast 0 false) x [(broadcast 1 false, y)] [y] := by
    refine ⟨by decide, hears_reading _ _, by decide, ?_, .heard (hears_reading _ _) .nil⟩
    decide
  have hheard : heard [(broadcast 1 false, y)] = [⟨1, false⟩] := by
    rw [heard, filter_of_readable (readable_broadcast 1 false)]
    rfl
  have hall := (no_false_restart_iff rfl (Machine.Run.of_exec agent _) (by decide) hrun hatt
    (by decide) hsent (by decide)).2 (by rw [hheard]; exact List.isChain_pair.2 fun _ => rfl)
  exact (hall (broadcast 1 false, y) (by simp)).1

/-- The host hears the advertisements 0 and 2, and takes the second for the first one after a
restart. -/
theorem lost_advertisement_resets :
    ¬ ∀ (a₀ a : MobileIPAdvertiser) (sent : Machine.Trace MobileIPAdvertiser AdvertiserEvent Packet)
      (h₀ h : MobileHost) (x : Machine.Entry MobileHost HostEvent Emission)
      (tr : Machine.Trace MobileHost HostEvent Emission) (s : Sent) (pre post : List Sent)
      (received : List (Sent × Machine.Entry MobileHost HostEvent Emission)),
      a₀.sequenceNumber = 0 → Machine.Run MobileIPAdvertiser.step a₀ sent a →
      (∀ e ∈ sent, e.event ≠ .restart) → Machine.Run MobileHost.step h₀ (x :: tr) h →
      Attached a₀.linkAddress s x received tr → sends false sent = pre ++ s :: post →
      (received.map Prod.fst).Sublist post → ∀ r ∈ received, ¬ Resets r.2 := by
  intro hall
  let x := reading mobileHost (broadcast 0 false)
  let y := reading visitor (broadcast 2 false)
  have hrun : Machine.Run MobileHost.step mobileHost [x, y] y.after :=
    (Machine.Run.nil.snoc (step_reading (readable_broadcast 0 false) mobileHost)).snoc
      (step_reading (readable_broadcast 2 false) visitor)
  have hsent : sends false (Machine.exec MobileIPAdvertiser.step agent
      [.runTimer, .runTimer, .runTimer]).1 =
        [] ++ broadcast 0 false :: [broadcast 1 false, broadcast 2 false] := by decide
  have hatt : Attached agent.linkAddress (broadcast 0 false) x [(broadcast 2 false, y)] [y] := by
    refine ⟨by decide, hears_reading _ _, by decide, ?_, .heard (hears_reading _ _) .nil⟩
    decide
  refine hall agent _ _ mobileHost _ x [y] _ [] _ [(broadcast 2 false, y)] rfl
    (Machine.Run.of_exec agent _) (by decide) hrun hatt hsent (by decide) _
    (List.mem_singleton_self _) ?_
  exact resets_reading (readable_broadcast 2 false) (by decide) (by decide) (by decide)

end Examples

end Restarts

end MobileIP
