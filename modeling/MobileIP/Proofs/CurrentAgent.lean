import MobileIP.Proofs.HomeRegistrations

/-! The soliciter and the node each keep the address of the current agent. Away from home the two
addresses are the same. -/

namespace MobileIP

namespace MobileIPNode

variable {mn mn' : MobileIPNode} {out : List Emission}

theorem agentAddress_step {e : MNEvent} (h : mn.step e = .ok (mn', out))
    (hne : e.isReregister = false) :
    mn'.connection.agentAddress = mn.connection.agentAddress := by
  cases e with
  | reregister ctx address careOfAddress lifetime => cases hne
  | push ctx p =>
    rcases push_cases h with ⟨rfl, -⟩ | ⟨reply, -, -, -, heq⟩
    · rfl
    · have hprocess := mn.processReply_agentAddress ctx reply
      rw [heq] at hprocess
      exact hprocess
  | runTimer ctx =>
    have htick := mn.runTimer_agentAddress ctx
    rw [Except.ok.inj h] at htick
    exact htick
  | requestTimeout value =>
    cases h
    rfl

def renewal (mn : MobileIPNode) (ctx : ℕ → SendContext) : List Emission :=
  ((mn.resent ctx).1.renewConnection (ctx (RequestList.removeTimedOutRequests mn.requestTimeout
    (RequestList.decreaseLifetime mn.requests)).1.length)).2

theorem runTimer_out (mn : MobileIPNode) (ctx : ℕ → SendContext) :
    (mn.runTimer ctx).2 = (mn.resent ctx).2 ++ mn.renewal ctx := rfl

theorem renewal_destination (mn : MobileIPNode) (ctx : ℕ → SendContext) :
    ∀ e ∈ mn.renewal ctx, e.destination = mn.connection.agentAddress := by
  intro e he
  unfold renewal at he
  by_cases hr : Renews (mn.resent ctx).1.connection (mn.resent ctx).1.requests
  · rw [renewConnection_renews hr, registerFA_eq] at he
    rw [List.mem_singleton.1 he, ← resent_connection mn ctx]
    rfl
  · rw [renewConnection_idle hr] at he
    cases he

end MobileIPNode

namespace MobileHost

variable {h h' h₀ : MobileHost} {e : HostEvent} {out : List Emission}

def Away (h : MobileHost) : Prop :=
  h.soliciter.connected = true ∧ h.soliciter.agentAddress ≠ h.MN.homeAgentPrivateAddress

def Agrees (h : MobileHost) : Prop :=
  h.Away → h.MN.connection.agentAddress = h.soliciter.agentAddress

theorem agrees_processAdvertisement (hh : h.Agrees) (now : ℕ) (ctx : SendContext)
    (ether : EtherHeader) (adv : RouterAdvertisement) :
    (h.processAdvertisement now ctx ether adv).1.Agrees := by
  unfold processAdvertisement
  dsimp only
  split_ifs with hhome hconn hfirst hnot hagent hreset hfast
  · exact hh
  · -- the first connection is made without the node, and with the home agent
    intro haway
    exact absurd hhome haway.2
  · exact fun _ => rfl
  · exact fun _ => rfl
  · exact fun _ => hagent.symm
  · exact hh
  · exact fun _ => rfl
  · exact hh

theorem agrees_of_node (hh : h.Agrees) (hsame : h'.soliciter.connected = h.soliciter.connected ∧
    h'.soliciter.agentAddress = h.soliciter.agentAddress) {e' : MNEvent}
    (hs : h.MN.step e' = .ok (h'.MN, out)) (hne : e'.isReregister = false) : h'.Agrees := by
  have hsetup := (MobileIPNode.sameSetup_step hs).homeAgentPrivateAddress
  intro haway
  rw [MobileIPNode.agentAddress_step hs hne, hsame.2]
  refine hh ⟨hsame.1.symm.trans haway.1, ?_⟩
  rw [← hsame.2, ← hsetup]
  exact haway.2

theorem agrees_step (hh : h.Agrees) (hs : h.step e = .ok (h', out)) : h'.Agrees := by
  cases e with
  | simpleAction now ctx unset p =>
    rcases simpleAction_cases hs with ⟨-, rfl, rfl⟩ | ⟨adv, -, heq⟩
    · exact hh
    · have hafter := agrees_processAdvertisement hh now ctx (processEtherHeader p true).1 adv
      rwa [heq] at hafter
  | lifetimeExpired =>
    cases hs
    intro haway
    cases haway.1
  | enableFastMoving value =>
    cases hs
    exact hh
  | push ctx p =>
    have hnode := step_of_causes hs .push rfl
    refine agrees_of_node hh ?_ hnode rfl
    simp only [step] at hs
    split at hs
    · cases hs
    · cases hs
      exact ⟨rfl, rfl⟩
  | runTimer ctx =>
    have hnode := step_of_causes hs .runTimer rfl
    cases hs
    exact agrees_of_node hh ⟨rfl, rfl⟩ hnode rfl
  | requestTimeout value =>
    have hnode := step_of_causes hs .requestTimeout rfl
    cases hs
    exact agrees_of_node hh ⟨rfl, rfl⟩ hnode rfl

/-- In every run of a host that starts unconnected, the node and the soliciter have the same agent
whenever the soliciter is connected elsewhere than at home, and the node renews its registration
with that agent. -/
theorem agents_agree {tr : Machine.Trace MobileHost HostEvent Emission}
    (h0 : h₀.soliciter.connected = false) (hrun : Machine.Run MobileHost.step h₀ tr h)
    (haway : h.Away) :
    h.MN.connection.agentAddress = h.soliciter.agentAddress ∧
      ∀ ctx, (h.MN.runTimer ctx).2 = (h.MN.resent ctx).2 ++ h.MN.renewal ctx ∧
        ∀ e ∈ h.MN.renewal ctx, e.destination = h.soliciter.agentAddress := by
  have hstart : h₀.Agrees := fun haway => absurd (h0.symm.trans haway.1) (by decide)
  have hagree := Machine.Run.invariant (I := Agrees) hstart
    (fun _ _ _ _ hh hs => agrees_step hh hs) hrun haway
  refine ⟨hagree, fun ctx => ⟨h.MN.runTimer_out ctx, fun e he => ?_⟩⟩
  rw [← hagree]
  exact h.MN.renewal_destination ctx e he

section Examples

open Definitions

theorem agents_agree_first :
    ∃ h : MobileHost, h.Away ∧ h.MN.connection.agentAddress = foreignAgentPrivateAddress ∧
      h.soliciter.agentAddress = foreignAgentPrivateAddress := by
  have hrun := Machine.Run.nil.snoc (step_advertisementArrives foreign_reads mobileHost 0)
  have haway : (mobileHost.processAdvertisement 0 (sendAt 1) (processEtherHeader (advertisementFrom
      foreignAgentPrivateAddress foreignAgentPublicAddress false) true).1 (advertisementRead
      foreignAgentPrivateAddress foreignAgentPublicAddress false)).1.Away := ⟨rfl, by decide⟩
  have hagree := (agents_agree rfl hrun haway).1
  exact ⟨_, haway, hagree.trans rfl, rfl⟩

end Examples

end MobileHost

end MobileIP
