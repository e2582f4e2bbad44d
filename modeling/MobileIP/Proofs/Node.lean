import MobileIP.Proofs.ReplyHandling
import MobileIP.Spec.Definitions

/-! Where the mobile node sends its requests, from one call of `reregister` to the next. -/

namespace MobileIP

namespace MobileIPNode

variable {mn mn₀ : MobileIPNode} {A : IPAddress}

def GenuineStep (x : Machine.Entry MobileIPNode MNEvent Emission) : Prop :=
  ∀ ctx p reply, x.event = .push ctx p → getPacketType p = .reply →
    (processRegistrationReplyPacket p).1 = .ok reply → x.before.Genuine reply

theorem aimed_step {x : Machine.Entry MobileIPNode MNEvent Emission}
    (hx : x.before.step x.event = .ok (x.after, x.out)) (hr : x.event.isReregister = false)
    (hg : GenuineStep x) (h : x.before.Aimed A) : SendsTo A (x.after, x.out) := by
  cases hev : x.event with
  | reregister ctx address careOfAddress lifetime => simp [hev, MNEvent.isReregister] at hr
  | push ctx p =>
    rw [hev] at hx
    rcases push_cases hx with ⟨hsame, hout⟩ | ⟨reply, hp, hreply, -, heq⟩
    · rw [hsame, hout]
      exact sendsTo_nil h
    · rw [← heq]
      exact processReply_sendsTo h (hg ctx p reply hev hp hreply) ctx
  | runTimer ctx =>
    rw [hev] at hx
    rw [← Except.ok.inj hx]
    exact runTimer_sendsTo h ctx
  | requestTimeout value =>
    rw [hev] at hx
    rw [← Except.ok.inj hx]
    exact sendsTo_nil ⟨h.requests, h.connection⟩

theorem reregister_sends {Q : IPAddress → UInt16 → Prop}
    (h : ∀ it ∈ mn.requests, Q it.destination it.requestedLifetime.toUInt16)
    (ctx : SendContext) (address careOfAddress : IPAddress) (lifetime : UInt32)
    (hQ : mn.homeAgentPrivateAddress = address → Q address 0)
    (hQ' : mn.homeAgentPrivateAddress ≠ address → Q address lifetime.toUInt16) :
    Sends Q (mn.reregister ctx address careOfAddress lifetime) := by
  unfold reregister
  by_cases hA : mn.homeAgentPrivateAddress = address
  · have hsent := sendRequest_sends h ctx address mn.connection.careOfAddress 0 1 (hQ hA)
    simp only [deregister, hA]
    exact ⟨hsent.requests, hsent.out⟩
  · have hsent := sendRequest_sends h ctx address careOfAddress lifetime 1 (hQ' hA)
    simp only [if_neg hA, registerFA]
    exact ⟨hsent.requests, hsent.out⟩

theorem reregister_sendsTo (h : ∀ it ∈ mn.requests, it.destination = A) (ctx : SendContext)
    (careOfAddress : IPAddress) (lifetime : UInt32) :
    SendsTo A (mn.reregister ctx A careOfAddress lifetime) := by
  have hsent := reregister_sends (Q := fun d _ => d = A) h ctx A careOfAddress lifetime
    (fun _ => rfl) (fun _ => rfl)
  exact hsent.sendsTo rfl

theorem step_reregister (mn : MobileIPNode) (ctx : SendContext) (address careOfAddress : IPAddress)
    (lifetime : UInt32) :
    mn.step (.reregister ctx address careOfAddress lifetime) =
      .ok ((mn.reregister ctx address careOfAddress lifetime).1,
        (mn.reregister ctx address careOfAddress lifetime).2) := rfl

/-- In a run in which no request for another agent is pending at any call of `reregister`, all that
is sent from one call to the next goes to the agent of the first. -/
theorem requests_follow_reregister {tr : Machine.Trace MobileIPNode MNEvent Emission}
    (hrun : Machine.Run MobileIPNode.step mn₀ tr mn) (hg : ∀ x ∈ tr, GenuineStep x)
    (hpending : ∀ x ∈ tr, ∀ ctx address careOfAddress lifetime,
      x.event = .reregister ctx address careOfAddress lifetime →
        ∀ it ∈ x.before.requests, it.destination = address) :
    ∀ pre x mid post ctx address careOfAddress lifetime, tr = pre ++ x :: (mid ++ post) →
      x.event = .reregister ctx address careOfAddress lifetime →
      (∀ y ∈ mid, y.event.isReregister = false) →
      ∀ y ∈ x :: mid, ∀ e ∈ y.out, e.destination = address := by
  intro pre x mid post ctx address careOfAddress lifetime htr hev hmid
  subst htr
  have hx : x ∈ pre ++ x :: (mid ++ post) := by simp
  have hfirst : SendsTo address (x.after, x.out) := by
    have hstep := hrun.step_mem x hx
    rw [hev] at hstep
    rw [← Except.ok.inj hstep]
    exact reregister_sendsTo (hpending x hx _ _ _ _ hev) ctx careOfAddress lifetime
  rw [List.forall_mem_cons]
  refine ⟨hfirst.out, fun y hy => ?_⟩
  obtain ⟨a, b, rfl⟩ := List.append_of_mem hy
  -- the stretch from `x` to `y` has no call of `reregister`
  have hbetween : Machine.Run MobileIPNode.step x.after a y.before :=
    (hrun.from_entry pre x _ rfl).to_entry a y (b ++ post) (by simp)
  have haimed : y.before.Aimed address :=
    Machine.Run.invariant_of (I := fun s => s.Aimed address)
      (C := fun z => z.event.isReregister = false ∧ GenuineStep z) hfirst.aimed
      (fun z hz hC h => (aimed_step hz hC.1 hC.2 h).aimed) hbetween
      fun z hz => ⟨hmid z (by simp [hz]), hg z (by simp [hz])⟩
  exact (aimed_step (hrun.step_mem y (by simp)) (hmid y (by simp)) (hg y (by simp)) haimed).out

section Examples

open Definitions

def timeout : List MNEvent := List.replicate 11 (.runTimer fun _ => sendAt 3)

theorem genuineStep_of_timeout {mn : MobileIPNode}
    {x : Machine.Entry MobileIPNode MNEvent Emission}
    (hx : x ∈ (Machine.exec MobileIPNode.step mn timeout).1) :
    x.event.isReregister = false ∧ GenuineStep x := by
  have hev := List.eq_of_mem_replicate (Machine.event_mem_of_exec hx)
  refine ⟨by rw [hev]; rfl, fun ctx p reply hpush => ?_⟩
  rw [hev] at hpush
  cases hpush

theorem requests_follow_reregister_timeout :
    ∃ tr mn, Machine.Run MobileIPNode.step mobileNode tr mn ∧ tr.outputs.length = 2 ∧
      ∀ y ∈ tr, ∀ e ∈ y.out, e.destination = foreignAgentPrivateAddress := by
  have hrun := Machine.Run.cons (step_reregister mobileNode (sendAt 1) foreignAgentPrivateAddress
    foreignAgentPublicAddress 65535) (Machine.Run.of_exec _ timeout)
  refine ⟨_, _, hrun, by decide, ?_⟩
  refine requests_follow_reregister hrun ?_ ?_ [] _ _ [] _ _ _ _ (by simp) rfl ?_
  · intro x hmem
    rcases hmem with _ | ⟨_, hx⟩
    · exact fun _ _ _ hpush => by cases hpush
    · exact (genuineStep_of_timeout hx).2
  · intro x hmem ctx address careOfAddress lifetime hev it hit
    rcases hmem with _ | ⟨_, hx⟩
    · cases hit
    · have := (genuineStep_of_timeout hx).1
      rw [hev] at this
      cases this
  · exact fun y hy => (genuineStep_of_timeout hy).1

/-- A node that moves on while its request is unanswered sends it once more, to the agent it
left. -/
theorem stale_request_resent :
    ¬ ∀ tr mn, Machine.Run MobileIPNode.step mobileNode tr mn → (∀ x ∈ tr, GenuineStep x) →
      ∀ pre x mid post ctx address careOfAddress lifetime, tr = pre ++ x :: (mid ++ post) →
        x.event = .reregister ctx address careOfAddress lifetime →
        (∀ y ∈ mid, y.event.isReregister = false) →
        ∀ y ∈ x :: mid, ∀ e ∈ y.out, e.destination = address := by
  intro h
  have hrun := Machine.Run.cons (step_reregister mobileNode (sendAt 1) foreignAgentPrivateAddress
    foreignAgentPublicAddress 65535) (Machine.Run.cons (step_reregister _ (sendAt 2)
      otherAgentPrivateAddress otherAgentPublicAddress 65535) (Machine.Run.of_exec _ timeout))
  have hdest := h _ _ hrun ?_ [_] _ _ [] _ _ _ _ (by rw [List.append_nil]; rfl) rfl fun y hy =>
    (genuineStep_of_timeout hy).1
  · exact absurd hdest (by decide)
  · intro x hmem
    rcases hmem with _ | ⟨_, _ | ⟨_, hx⟩⟩
    · exact fun _ _ _ hpush => by cases hpush
    · exact fun _ _ _ hpush => by cases hpush
    · exact (genuineStep_of_timeout hx).2

end Examples

end MobileIPNode

end MobileIP
