import MobileIP.Proofs.Visitors

/-! What a reply that the foreign agent relays does to the visitor list: to the entry of the node it
is about, and to the others. -/

namespace MobileIP

namespace VisitorList

variable {h a : IPAddress} {l : VisitorList}

def others (h a : IPAddress) (l : VisitorList) : VisitorList :=
  l.filter fun it => !decide (Matches h a it)

theorem has_remove (h a : IPAddress) (l : VisitorList) : has h a (remove h a l) = false := by
  rw [has_eq_false_iff, remove_eq]
  intro it hit hm
  simpa [hm] using (List.mem_filter.1 hit).2

theorem others_remove (h a : IPAddress) (l : VisitorList) :
    others h a (remove h a l) = others h a l := by
  rw [others, remove_eq, List.filter_filter]
  simp only [Bool.and_self, others]

theorem others_append {it : VisitorListItem} (hm : Matches h a it) :
    others h a (l ++ [it]) = others h a l := by
  simp [others, List.filter_append, hm]

theorem others_map {f : VisitorListItem → VisitorListItem}
    (hkey : ∀ it, Matches h a (f it) ↔ Matches h a it) (hf : ∀ it, ¬ Matches h a it → f it = it) :
    others h a (l.map f) = others h a l := by
  induction l with
  | nil => rfl
  | cons it rest ih =>
    simp only [others, List.map_cons, List.filter_cons] at ih ⊢
    by_cases hm : Matches h a it
    · simpa [(hkey it).2 hm, hm] using ih
    · simpa [hf it hm, hm] using ih

end VisitorList

namespace MobileIPForeignAgent

variable {fa fa₀ : MobileIPForeignAgent} {reply : RegistrationReply} {request : RequestListItem}

theorem others_updateVisitors (fa : MobileIPForeignAgent) (reply : RegistrationReply)
    (request : RequestListItem) :
    VisitorList.others reply.home reply.homeAgent (fa.updateVisitors reply request) =
      VisitorList.others reply.home reply.homeAgent fa.visitors := by
  by_cases hacc : reply.Accepting
  · cases hv : VisitorList.has reply.home reply.homeAgent fa.visitors with
    | false =>
      rw [updateVisitors_enter hacc hv]
      exact VisitorList.others_append ⟨rfl, rfl⟩
    | true =>
      by_cases h0 : reply.lifetime = 0
      · rw [updateVisitors_leave hacc h0 hv]
        exact VisitorList.others_remove _ _ _
      · rw [updateVisitors_renew hacc h0 hv]
        apply VisitorList.others_map
        · intro it
          split_ifs <;> rfl
        · intro it hm
          rw [if_neg hm]
  · by_cases h0 : reply.lifetime = 0
    · have h' : ¬ (reply.code = 0 ∨ reply.code = 1) := hacc
      simp only [updateVisitors, if_neg h', h0, ne_eq, not_true_eq_false, if_false]
    · rw [updateVisitors_expel hacc h0]
      exact VisitorList.others_remove _ _ _

theorem ReceivesReply.step_of_answers {e : FAEvent} {clock : Clock}
    (hrec : ReceivesReply e clock reply) (hans : fa.Answers reply request) :
    ∃ rest, fa.step e = .ok ({ fa with
        requests := rest, visitors := fa.updateVisitors reply request },
      [⟨0, .reply (fa.passedOn clock reply request.rr.UDP.sourcePort)⟩]) := by
  obtain ⟨rest, hremove, hcheck⟩ := hans
  refine ⟨rest, ?_⟩
  rw [hrec.step fa, relayReply_of_pending hremove hcheck, sendReplyFromHA_eq]

/-- In every state of a run no visitor has two entries. A reply for a lifetime leaves the node one
entry with the lifetime that is granted if it accepts, and none if it does not, and is passed on. -/
theorem visitor_entries {tr : Machine.Trace MobileIPForeignAgent FAEvent Emission}
    (h0 : fa₀.visitors = []) (hrun : Machine.Run MobileIPForeignAgent.step fa₀ tr fa) :
    (fa.visitors.map fun v => (v.MNhome, v.MNhomeAgent)).Nodup ∧
    ∀ e clock reply request, ReceivesReply e clock reply → fa.Answers reply request →
      reply.lifetime ≠ 0 → ∃ fa' d, fa.step e = .ok (fa', [⟨0, .reply d⟩]) ∧
        (reply.code = 0 ∨ reply.code = 1 →
          ∃ v, fa'.visitors.filter (fun it => decide (VisitorList.Matches reply.home
              reply.homeAgent it)) = [v] ∧
            v.requestedLifetime = min reply.lifetime fa.maxAcceptedLifetime ∧
            v.remainingLifetime = min reply.lifetime fa.maxAcceptedLifetime) ∧
        (¬ (reply.code = 0 ∨ reply.code = 1) →
          VisitorList.has reply.home reply.homeAgent fa'.visitors = false) ∧
        VisitorList.others reply.home reply.homeAgent fa'.visitors =
          VisitorList.others reply.home reply.homeAgent fa.visitors ∧
        (d.payload.code.toUInt32 = reply.code ∧ d.payload.lifetime.toUInt32 = reply.lifetime ∧
          d.payload.homeAgent = reply.homeAgent ∧
          d.payload.identification2 = reply.identification) ∧
        d.payload.homeAddress = reply.home ∧
        d.destination = (if reply.home = .zero then .broadcast else reply.home) ∧
        d.destinationPort = request.rr.UDP.sourcePort.toUInt16 := by
  have hnodup := keys_nodup_run h0 hrun
  refine ⟨hnodup, ?_⟩
  intro e clock reply request hrec hans hl
  obtain ⟨rest, hstep⟩ := hrec.step_of_answers hans
  obtain ⟨_, p, -, -, hread⟩ := hrec
  refine ⟨_, _, hstep, ?_, ?_, fa.others_updateVisitors reply request, ⟨?_, ?_, rfl, rfl⟩, rfl, rfl,
    rfl⟩
  · intro hacc
    obtain ⟨v, hv, hm, hreq, hrem⟩ := fa.exists_updateVisitors hacc hl request
    refine ⟨v, ?_, hreq, hrem⟩
    have hone := CountDown.filter_key_eq_singleton (updateVisitors_keys hnodup) hv
    refine (List.filter_congr fun it _ => ?_).trans hone
    simp only [Prod.mk.injEq, hm.1, hm.2]
  · intro hacc
    change VisitorList.has _ _ (fa.updateVisitors reply request) = false
    rw [updateVisitors_expel hacc hl]
    exact VisitorList.has_remove _ _ _
  · exact (processRegistrationReplyPacket_fields hread).1
  · exact toUInt32_toUInt16 (processRegistrationReplyPacket_fields hread).2

section Examples

open Definitions

theorem visitor_entries_first :
    ∃ tr fa fa' d v, Machine.Run MobileIPForeignAgent.step foreignAgent tr fa ∧
      fa.step (replyArrives (replyFrom 100 7)) = .ok (fa', [⟨0, .reply d⟩]) ∧
      fa'.visitors.filter (fun it => decide (VisitorList.Matches mobileNodeAddress
        homeAgentPublicAddress it)) = [v] ∧ v.remainingLifetime = 100 := by
  have hreq : ReceivesRequest (requestArrives (requestFrom 100 7)) ⟨0, 0⟩ 0
      (requestFrom 100 7).request :=
    ⟨_, rfl, by decide +kernel, by decide +kernel⟩
  have hrec : ReceivesReply (replyArrives (replyFrom 100 7)) ⟨0, 0⟩ (replyFrom 100 7).reply :=
    ⟨_, _, rfl, by decide +kernel, by decide +kernel⟩
  have hrun := Machine.Run.nil.snoc (hreq.step foreignAgent)
  obtain ⟨fa', d, hstep, hentry, -⟩ := (visitor_entries rfl hrun).2 _ _ _
    (foreignAgent.pendingItem 0 (requestFrom 100 7).request) hrec ⟨[], by decide, by decide⟩
    (by decide)
  obtain ⟨v, hv, -, hremaining⟩ := hentry (Or.inl rfl)
  exact ⟨_, _, fa', d, v, hrun, hstep, hv, hremaining⟩

end Examples

/-- An accepting reply for the lifetime 0 removes a visitor, and enters any other node. -/
theorem has_updateVisitors_leave (hacc : reply.Accepting) (hl : reply.lifetime = 0)
    (request : RequestListItem) :
    VisitorList.has reply.home reply.homeAgent (fa.updateVisitors reply request) =
      !VisitorList.has reply.home reply.homeAgent fa.visitors := by
  cases hv : VisitorList.has reply.home reply.homeAgent fa.visitors with
  | false =>
    rw [updateVisitors_enter hacc hv, Bool.not_false, ← Bool.not_eq_false,
      VisitorList.has_eq_false_iff]
    intro hnone
    exact hnone _ (List.mem_append_right _ (List.mem_singleton_self _)) ⟨rfl, rfl⟩
  | true =>
    rw [updateVisitors_leave hacc hl hv]
    exact VisitorList.has_remove _ _ _

/-- In every run, an accepting reply for the lifetime 0 that answers a pending request leaves no
entry of the node, and the others as they were, exactly if the node was a visitor. -/
theorem deregistered_iff {tr : Machine.Trace MobileIPForeignAgent FAEvent Emission}
    (hrun : Machine.Run MobileIPForeignAgent.step fa₀ tr fa)
    {x : Machine.Entry MobileIPForeignAgent FAEvent Emission} (hx : x ∈ tr) {clock : Clock}
    (hrec : ReceivesReply x.event clock reply) (hans : x.before.Answers reply request)
    (hacc : reply.code = 0 ∨ reply.code = 1) (hl : reply.lifetime = 0) :
    (VisitorList.has reply.home reply.homeAgent x.after.visitors = false ∧
      VisitorList.others reply.home reply.homeAgent x.after.visitors =
        VisitorList.others reply.home reply.homeAgent x.before.visitors) ↔
      VisitorList.has reply.home reply.homeAgent x.before.visitors = true := by
  obtain ⟨rest, hstep⟩ := hrec.step_of_answers hans
  have hafter : x.after.visitors = x.before.updateVisitors reply request := by
    rw [hrun.step_mem x hx] at hstep
    exact congrArg visitors (Prod.mk.inj (Except.ok.inj hstep)).1
  rw [hafter, has_updateVisitors_leave hacc hl, Bool.not_eq_false']
  exact and_iff_left (x.before.others_updateVisitors reply request)

section Examples

open Definitions

theorem deregistered_visitor :
    ∃ tr fa x, Machine.Run MobileIPForeignAgent.step foreignAgent tr fa ∧ x ∈ tr ∧
      x.event = replyArrives (replyFrom 0 8) ∧
      VisitorList.has mobileNodeAddress homeAgentPublicAddress x.before.visitors = true ∧
      VisitorList.has mobileNodeAddress homeAgentPublicAddress x.after.visitors = false := by
  have hrec : ReceivesReply (replyArrives (replyFrom 0 8)) ⟨0, 0⟩ (replyFrom 0 8).reply :=
    ⟨_, _, rfl, by decide +kernel, by decide +kernel⟩
  obtain ⟨tr, fa, hbefore, hans, hvisitor⟩ :
      ∃ tr fa, Machine.Run MobileIPForeignAgent.step foreignAgent tr fa ∧
        fa.Answers (replyFrom 0 8).reply
          (foreignAgent.pendingItem 0 (requestFrom 0 8).request) ∧
        VisitorList.has mobileNodeAddress homeAgentPublicAddress fa.visitors = true :=
    ⟨_, _, .of_exec foreignAgent [requestArrives (requestFrom 100 7),
      replyArrives (replyFrom 100 7), requestArrives (requestFrom 0 8)],
      ⟨[], by decide +kernel, by decide +kernel⟩, by decide +kernel⟩
  obtain ⟨rest, hstep⟩ := hrec.step_of_answers hans
  have hrun := hbefore.snoc hstep
  have hgone := (deregistered_iff hrun (List.mem_append_right _ (List.mem_singleton_self _)) hrec
    hans (Or.inl rfl) rfl).2 hvisitor
  exact ⟨_, _, _, hrun, List.mem_append_right _ (List.mem_singleton_self _), rfl, hvisitor, hgone.1⟩

/-- A node that deregisters through a foreign agent it does not visit is a visitor from then on. -/
theorem deregistration_enters :
    ¬ ∀ tr fa, Machine.Run MobileIPForeignAgent.step foreignAgent tr fa →
      ∀ e clock reply request, ReceivesReply e clock reply → fa.Answers reply request →
        reply.code = 0 ∨ reply.code = 1 → reply.lifetime = 0 →
        ∃ fa' out, fa.step e = .ok (fa', out) ∧
          VisitorList.has reply.home reply.homeAgent fa'.visitors = false := by
  intro h
  have hreq : ReceivesRequest (requestArrives (requestFrom 0 7)) ⟨0, 0⟩ 0
      (requestFrom 0 7).request :=
    ⟨_, rfl, by decide +kernel, by decide +kernel⟩
  have hrec : ReceivesReply (replyArrives (replyFrom 0 7)) ⟨0, 0⟩ (replyFrom 0 7).reply :=
    ⟨_, _, rfl, by decide +kernel, by decide +kernel⟩
  have hrun := Machine.Run.nil.snoc (hreq.step foreignAgent)
  obtain ⟨fa', out, hstep, hnone⟩ := h _ _ hrun _ _ _ (foreignAgent.pendingItem 0
    (requestFrom 0 7).request) hrec ⟨[], by decide, by decide⟩ (Or.inl rfl) rfl
  rw [hrec.step] at hstep
  cases hstep
  exact absurd hnone (by decide)

end Examples

end MobileIPForeignAgent

end MobileIP
