import MobileIP.Proofs.PendingRequests
import MobileIP.Proofs.Visitors
import MobileIP.Spec.Tunnel

/-! What the foreign agent sends out, and whom it lets in, has been asked for: each reply is paid for
by one request it has received, and each visitor by one request it has relayed. -/

namespace MobileIP

/-- The event is a registration request on the private network, readable or not. -/
def FAEvent.isRegistration : FAEvent → Bool
  | .push _ _ port p => decide (port = 0 ∧ getPacketType p = .registration)
  | _ => false

namespace MobileIPForeignAgent

variable {fa fa₀ : MobileIPForeignAgent}

def Adds (x : Machine.Entry MobileIPForeignAgent FAEvent Emission) : Prop :=
  ∃ item, x.after.requests = RequestList.add item x.before.requests

instance (x : Machine.Entry MobileIPForeignAgent FAEvent Emission) : Decidable (Adds x) :=
  decidable_of_iff (x.after.requests ≠ [] ∧ x.after.requests.dropLast = x.before.requests) (by
    unfold Adds RequestList.add
    constructor
    · intro h
      obtain ⟨hne, hbefore⟩ := h
      refine ⟨x.after.requests.getLast hne, ?_⟩
      rw [← hbefore]
      exact (List.dropLast_concat_getLast hne).symm
    · intro h
      obtain ⟨item, heq⟩ := h
      rw [heq]
      simp)

theorem not_adds_of_length {x : Machine.Entry MobileIPForeignAgent FAEvent Emission}
    (h : x.after.requests.length ≤ x.before.requests.length) : ¬ Adds x := by
  intro hadds
  obtain ⟨item, heq⟩ := hadds
  rw [heq, RequestList.add, List.length_append, List.length_singleton] at h
  omega

def replies (out : List Emission) : ℕ := out.countP fun e => decide (e.output = 0)

def relays (out : List Emission) : ℕ := out.countP fun e => decide (e.output = 1)

/-- What a step sends is paid for: a reply by a request that arrives or that leaves the list, and a
packet to the public network by a request that is added to the list. -/
structure Solicited (x : Machine.Entry MobileIPForeignAgent FAEvent Emission) : Prop where
  replies : replies x.out + x.after.requests.length ≤
    x.before.requests.length + x.event.isRegistration.toNat
  relays : relays x.out = (decide (Adds x)).toNat

theorem solicited_of_silent {x : Machine.Entry MobileIPForeignAgent FAEvent Emission}
    (h : x.after.requests.length ≤ x.before.requests.length) (hout : x.out = []) : Solicited x := by
  refine ⟨?_, ?_⟩
  · rw [hout]
    simp only [MobileIPForeignAgent.replies, List.countP_nil]
    omega
  · rw [hout, decide_eq_false (not_adds_of_length h)]
    rfl

theorem solicited_request {x : Machine.Entry MobileIPForeignAgent FAEvent Emission} {clock : Clock}
    {ttl : UInt32} {registration : RegistrationRequest}
    (hrec : ReceivesRequest x.event clock ttl registration)
    (hrel : x.before.relayRequest clock ttl registration = (x.after, x.out)) : Solicited x := by
  have hev : x.event.isRegistration = true := by
    obtain ⟨p, hev, hp, -⟩ := hrec
    simp [hev, FAEvent.isRegistration, hp]
  rcases relayRequest_emits hrel with ⟨hafter, hout⟩ | ⟨hafter, hout⟩
  · have hadds : ¬ Adds x := not_adds_of_length (by rw [hafter])
    refine ⟨?_, ?_⟩
    · rw [hafter, hev]
      rcases hout with hout | ⟨d, hout⟩
      · simp [hout, MobileIPForeignAgent.replies]
      · simp [hout, MobileIPForeignAgent.replies, add_comm]
    · rw [decide_eq_false hadds]
      rcases hout with hout | ⟨d, hout⟩
      · simp [hout, MobileIPForeignAgent.relays]
      · simp [hout, MobileIPForeignAgent.relays]
  · have hadds : Adds x := ⟨_, by rw [hafter]; rfl⟩
    refine ⟨?_, ?_⟩
    · simp [hafter, hev, hout, MobileIPForeignAgent.replies]
    · rw [decide_eq_true hadds, hout]
      rfl

theorem solicited_reply {x : Machine.Entry MobileIPForeignAgent FAEvent Emission} {clock : Clock}
    {reply : RegistrationReply} (hrel : x.before.relayReply clock reply = (x.after, x.out)) :
    Solicited x := by
  rcases relayReply_cases hrel with ⟨rs, hsub, hafter, -, hout⟩ | ⟨request, rs, hans, -, -, hout⟩
  · exact solicited_of_silent (by rw [hafter]; exact hsub.length_le) hout
  · obtain ⟨rest, hr, hc⟩ := hans
    obtain ⟨pre, post, hl, rfl, -⟩ := RequestList.remove_ok hr
    rw [relayReply_of_pending hr hc, Prod.mk.injEq] at hrel
    have hlength : x.after.requests.length + 1 = x.before.requests.length := by
      rw [← hrel.1, hl]
      simp [add_assoc]
    rw [sendReplyFromHA_eq] at hout
    refine ⟨?_, ?_⟩
    · simp only [hout, MobileIPForeignAgent.replies, List.countP_singleton, decide_true, if_true]
      omega
    · rw [decide_eq_false (not_adds_of_length (by omega)), hout]
      rfl

theorem solicited_tick {x : Machine.Entry MobileIPForeignAgent FAEvent Emission}
    {clock : ℕ → Clock} (htick : x.before.runTimer clock = (x.after, x.out)) : Solicited x := by
  obtain ⟨hafter, hout⟩ := Prod.mk.inj htick
  have hcode : ∀ e ∈ x.out, e.output = 0 ∧ e.code = some 78 := by
    rw [← hout]
    exact (sendRequestTimedOutReply_spec _ _ _).1
  -- the second pass parts what the first one leaves
  have hsum : x.out.length + x.after.requests.length ≤ x.before.requests.length := by
    have hlen := congrArg List.length (sendRequestTimedOutReply_spec x.before clock
      (RequestList.removeTimedOutRequests x.before.requestTimeout
        (RequestList.decreaseLifetime x.before.requests)).1).2
    rw [List.length_map, List.length_map] at hlen
    rw [← hafter, ← hout, hlen]
    simp only [RequestList.removeTimedOutRequests_eq, RequestList.decreaseLifetime_eq]
    have hparts := (List.filter_append_perm
      (fun it : RequestListItem => decide (it.waitingTime ≤ x.before.requestTimeout))
      ((x.before.requests.filterMap RequestList.countDown).map RequestList.wait)).length_eq
    have hfirst := List.length_filterMap_le RequestList.countDown x.before.requests
    rw [List.length_append, List.length_map] at hparts
    omega
  have hzero : replies x.out = x.out.length :=
    List.countP_eq_length.2 fun e he => by simp [(hcode e he).1]
  have hone : relays x.out = 0 :=
    List.countP_eq_zero.2 fun e he => by simp [(hcode e he).1]
  refine ⟨by omega, ?_⟩
  rw [hone, decide_eq_false (not_adds_of_length (by omega))]
  rfl

theorem solicited_step {x : Machine.Entry MobileIPForeignAgent FAEvent Emission}
    (hx : x.before.step x.event = .ok (x.after, x.out)) : Solicited x := by
  rcases step_cases hx with ⟨_, _, _, hrec, hrel⟩ | ⟨_, _, -, hrel⟩ | ⟨_, -, htick⟩ |
    ⟨-, -, hreq, -, hout⟩
  · exact solicited_request hrec hrel
  · exact solicited_reply hrel
  · exact solicited_tick htick
  · exact solicited_of_silent (by rw [hreq]) hout

/-- In a run that starts without pending requests, the replies sent and the requests still pending
are together no more than the registration requests received, and as many packets go out to the
public network as requests have been added to the list. -/
theorem replies_solicited {tr : Machine.Trace MobileIPForeignAgent FAEvent Emission}
    (h0 : fa₀.requests = []) (hrun : Machine.Run MobileIPForeignAgent.step fa₀ tr fa) :
    replies (Machine.Trace.outputs tr) + fa.requests.length ≤
        tr.countP (fun x => x.event.isRegistration) ∧
      relays (Machine.Trace.outputs tr) = tr.countP fun x => decide (Adds x) := by
  induction hrun with
  | nil => simp [h0, replies, relays, Machine.Trace.outputs]
  | @snoc tr s s' e out _ hs ih =>
    have hlast : Solicited ⟨s, e, out, s'⟩ := solicited_step hs
    obtain ⟨hreplies, hrelays⟩ := hlast
    obtain ⟨ihreplies, ihrelays⟩ := ih
    rw [Machine.countP_snoc, Machine.countP_snoc, Machine.Trace.outputs_snoc]
    simp only [replies, relays, List.countP_append] at *
    exact ⟨by omega, by omega⟩

section Examples

open Definitions

/-- A request is relayed, and of two replies to it the second one is dropped. -/
theorem replies_solicited_duplicate :
    ∃ tr fa, Machine.Run MobileIPForeignAgent.step foreignAgent tr fa ∧ tr.length = 3 ∧
      replies (Machine.Trace.outputs tr) + fa.requests.length ≤ 1 := by
  have hreq : ReceivesRequest (requestArrives (requestFrom 100 7)) ⟨0, 0⟩ 0
      (requestFrom 100 7).request := ⟨_, rfl, by decide +kernel, by decide +kernel⟩
  have hrep : ReceivesReply (replyArrives (replyFrom 100 7)) ⟨0, 0⟩ (replyFrom 100 7).reply :=
    ⟨_, _, rfl, by decide +kernel, by decide +kernel⟩
  have hrun := ((Machine.Run.nil.snoc (hreq.step foreignAgent)).snoc (hrep.step _)).snoc
    (hrep.step _)
  refine ⟨_, _, hrun, rfl, (replies_solicited rfl hrun).1.trans ?_⟩
  decide +kernel

end Examples

def Relayed (out : List Emission) (home homeAgent : IPAddress) : Prop :=
  ∃ d, ⟨1, .request d⟩ ∈ out ∧ d.payload.homeAddress = home ∧ d.payload.homeAgent = homeAgent

theorem Relayed.append {out : List Emission} {home homeAgent : IPAddress}
    (h : Relayed out home homeAgent) (out' : List Emission) :
    Relayed (out ++ out') home homeAgent := by
  obtain ⟨d, hd, hnamed⟩ := h
  exact ⟨d, List.mem_append_left _ hd, hnamed⟩

structure Asked (out : List Emission) (fa : MobileIPForeignAgent) : Prop where
  requests : ∀ it ∈ fa.requests, Relayed out it.rr.home it.rr.homeAgent
  visitors : ∀ v ∈ fa.visitors, Relayed out v.MNhome v.MNhomeAgent

theorem Asked.mono {out out' : List Emission} {fa' : MobileIPForeignAgent} (h : Asked out fa)
    (hr : ∀ it ∈ fa'.requests, ∃ it₀ ∈ fa.requests, it.rr = it₀.rr)
    (hv : ∀ v ∈ fa'.visitors, ∃ v₀ ∈ fa.visitors,
      v.MNhome = v₀.MNhome ∧ v.MNhomeAgent = v₀.MNhomeAgent) : Asked (out ++ out') fa' := by
  refine ⟨fun it hit => ?_, fun v hmem => ?_⟩
  · obtain ⟨it₀, hit₀, hrr⟩ := hr it hit
    rw [hrr]
    exact (h.requests it₀ hit₀).append out'
  · obtain ⟨v₀, hv₀, hhome, hagent⟩ := hv v hmem
    rw [hhome, hagent]
    exact (h.visitors v₀ hv₀).append out'

/-- The home agent that is entered for a new visitor is the one that its request named. -/
def NamedStep (x : Machine.Entry MobileIPForeignAgent FAEvent Emission) : Prop :=
  ∀ clock reply request, ReceivesReply x.event clock reply → x.before.Answers reply request →
    reply.Accepting → VisitorList.has reply.home reply.homeAgent x.before.visitors = false →
      reply.homeAgent = request.rr.homeAgent

theorem asked_reply {out out' : List Emission} {reply : RegistrationReply}
    {request : RequestListItem} {rest : RequestList} (h : Asked out fa)
    (hans : fa.Answers reply request) (hsub : rest.Sublist fa.requests)
    (hnamed : reply.Accepting → VisitorList.has reply.home reply.homeAgent fa.visitors = false →
      reply.homeAgent = request.rr.homeAgent) :
    Asked (out ++ out')
      { fa with requests := rest, visitors := fa.updateVisitors reply request } := by
  refine ⟨fun it hit => (h.requests it (hsub.subset hit)).append out', fun v hv => ?_⟩
  rcases mem_updateVisitors hv with hv | ⟨hacc, ⟨hhome, hagent⟩, -⟩
  · exact (h.visitors v hv).append out'
  · rw [hhome, hagent]
    cases hhas : VisitorList.has reply.home reply.homeAgent fa.visitors with
    | true =>
      obtain ⟨v₀, hv₀, hh, ha⟩ := (VisitorList.has_iff _ _ _).1 hhas
      rw [← hh, ← ha]
      exact (h.visitors v₀ hv₀).append out'
    | false =>
      obtain ⟨hmem, -, hrr, -⟩ := hans.request
      rw [← hrr, hnamed hacc hhas]
      exact (h.requests request hmem).append out'

theorem asked_step {x : Machine.Entry MobileIPForeignAgent FAEvent Emission} {out : List Emission}
    (hx : x.before.step x.event = .ok (x.after, x.out)) (hn : NamedStep x)
    (h : Asked out x.before) : Asked (out ++ x.out) x.after := by
  rcases step_cases hx with ⟨clock, ttl, registration, -, hrel⟩ | ⟨clock, reply, hrec, hrel⟩ |
    ⟨clock, -, htick⟩ | ⟨-, -, hreq, hvis, -⟩
  · rcases relayRequest_emits hrel with ⟨hafter, -⟩ | ⟨hafter, hout⟩
    · rw [hafter]
      exact h.mono (fun it hit => ⟨it, hit, rfl⟩) fun v hv => ⟨v, hv, rfl, rfl⟩
    · rw [hafter, hout]
      refine ⟨fun it hit => ?_, fun v hv => (h.visitors v hv).append _⟩
      rcases List.mem_append.1 hit with hit | hit
      · exact (h.requests it hit).append _
      · rw [List.mem_singleton.1 hit]
        exact ⟨_, List.mem_append_right _ (List.mem_singleton_self _), rfl, rfl⟩
  · rcases relayReply_cases hrel with ⟨rs, hsub, hafter, -, -⟩ | ⟨request, rs, hans, hsub, hafter, -⟩
    · rw [hafter]
      exact h.mono (fun it hit => ⟨it, hsub.subset hit, rfl⟩) fun v hv => ⟨v, hv, rfl, rfl⟩
    · rw [hafter]
      exact asked_reply h hans hsub fun hacc hhas => hn clock reply request hrec hans hacc hhas
  · obtain ⟨hafter, -⟩ := Prod.mk.inj htick
    refine h.mono (fun it hit => ?_) fun v hv => ?_
    · rw [← hafter] at hit
      have hit : it ∈ (x.before.runTimer clock).1.requests := hit
      rw [runTimer_requests] at hit
      obtain ⟨it₀, hit₀, htick⟩ := List.mem_filterMap.1 hit
      obtain ⟨c, hc, rfl, -⟩ := RequestList.tick_eq_some_iff.1 htick
      exact ⟨it₀, hit₀, (countDown_identification hc).2.1⟩
    · rw [← hafter] at hv
      obtain ⟨v₀, hv₀, hc⟩ := List.mem_filterMap.1 (VisitorList.decreaseLifetime_eq _ ▸ hv)
      obtain ⟨hhome, hagent⟩ := Prod.mk.inj (VisitorList.countDown_key hc)
      exact ⟨v₀, hv₀, hhome, hagent⟩
  · refine h.mono (fun it hit => ⟨it, hreq ▸ hit, rfl⟩) fun v hv => ⟨v, hvis ▸ hv, rfl, rfl⟩

theorem asked_run {tr : Machine.Trace MobileIPForeignAgent FAEvent Emission}
    (h0 : fa₀.requests = [] ∧ fa₀.visitors = [])
    (hrun : Machine.Run MobileIPForeignAgent.step fa₀ tr fa) (hn : ∀ x ∈ tr, NamedStep x) :
    Asked (Machine.Trace.outputs tr) fa := by
  induction hrun with
  | nil => exact ⟨by simp [h0.1], by simp [h0.2]⟩
  | @snoc tr s s' e out _ hs ih =>
    rw [Machine.Trace.outputs_snoc]
    refine asked_step (x := ⟨s, e, out, s'⟩) hs (hn _ (by simp)) ?_
    exact ih fun x hx => hn x (by simp [hx])

/-- In a run in which every accepting reply that lets in a visitor names the home agent of the
request it answers, every visitor has asked to be one, and the packets that come out of the tunnel
were sent by a home agent that the visiting node has named. -/
theorem visitors_asked {tr : Machine.Trace MobileIPForeignAgent FAEvent Emission}
    (h0 : fa₀.requests = [] ∧ fa₀.visitors = [])
    (hrun : Machine.Run MobileIPForeignAgent.step fa₀ tr fa) (hn : ∀ x ∈ tr, NamedStep x) :
    (∀ v ∈ fa.visitors, Relayed (Machine.Trace.outputs tr) v.MNhome v.MNhomeAgent) ∧
      ∀ p, ∀ r ∈ MobileIPDecapsulator.push fa p, r.1 = 1 →
        Relayed (Machine.Trace.outputs tr) (p.inAddr (p.data + 20 + 16)) (p.inAddr (p.data + 12)) := by
  have hasked := asked_run h0 hrun hn
  refine ⟨hasked.visitors, fun p r hr hport => ?_⟩
  unfold MobileIPDecapsulator.push at hr
  split_ifs at hr with hp
  · have hhas : VisitorList.has (p.inAddr (p.data + 20 + 16)) (p.inAddr (p.data + 12))
        fa.visitors = true := by
      by_contra hnot
      simp only [processTunnelIPPacket, if_true, if_neg hnot, List.not_mem_nil] at hr
    obtain ⟨v, hv, hhome, hagent⟩ := (VisitorList.has_iff _ _ _).1 hhas
    rw [← hhome, ← hagent]
    exact hasked.visitors v hv
  · rw [List.mem_singleton.1 hr] at hport
    cases hport

section Examples

open Definitions

def namedHomeAgent (e : Emission) : Option IPAddress :=
  match e.message with
  | .request d => some d.payload.homeAgent
  | .reply _ => none

/-- The reply of a stranger to the request of the node, which names the stranger as home agent. -/
def strangersReply : Datagram RegistrationReplyPacket :=
  { replyFrom 100 7 with
    payload := { (replyFrom 100 7).payload with homeAgent := correspondingNodeAddress } }

theorem visitors_asked_registration :
    ∃ tr fa, Machine.Run MobileIPForeignAgent.step foreignAgent tr fa ∧
      VisitorList.has mobileNodeAddress homeAgentPublicAddress fa.visitors = true ∧
      ∀ v ∈ fa.visitors, Relayed (Machine.Trace.outputs tr) v.MNhome v.MNhomeAgent := by
  have hreq : ReceivesRequest (requestArrives (requestFrom 100 7)) ⟨0, 0⟩ 0
      (requestFrom 100 7).request := ⟨_, rfl, by decide +kernel, by decide +kernel⟩
  have hrep : ReceivesReply (replyArrives (replyFrom 100 7)) ⟨0, 0⟩ (replyFrom 100 7).reply :=
    ⟨_, _, rfl, by decide +kernel, by decide +kernel⟩
  have hrun := (Machine.Run.nil.snoc (hreq.step foreignAgent)).snoc (hrep.step _)
  refine ⟨_, _, hrun, by decide, (visitors_asked ⟨rfl, rfl⟩ hrun ?_).1⟩
  simp only [List.nil_append, List.cons_append, List.forall_mem_cons]
  refine ⟨?_, ?_, by simp⟩
  · intro _ _ _ hrec
    obtain ⟨_, _, hev, -⟩ := hrec
    cases hev
  · intro _ reply request hrec hans _ _
    obtain rfl := hrep.unique hrec
    obtain ⟨hmem, -⟩ := hans.request
    clear hans
    revert request
    decide

/-- A stranger that answers the request of the node in place of its home agent is let in. -/
theorem visitor_not_asked :
    ¬ ∀ tr fa, Machine.Run MobileIPForeignAgent.step foreignAgent tr fa →
      ∀ v ∈ fa.visitors, Relayed (Machine.Trace.outputs tr) v.MNhome v.MNhomeAgent := by
  intro h
  have hreq : ReceivesRequest (requestArrives (requestFrom 100 7)) ⟨0, 0⟩ 0
      (requestFrom 100 7).request := ⟨_, rfl, by decide +kernel, by decide +kernel⟩
  have hrep : ReceivesReply (replyArrives strangersReply) ⟨0, 0⟩ strangersReply.reply :=
    ⟨_, _, rfl, by decide +kernel, by decide +kernel⟩
  have hrun := (Machine.Run.nil.snoc (hreq.step foreignAgent)).snoc (hrep.step _)
  obtain ⟨d, hd, -, hagent⟩ := h _ _ hrun
    ⟨mobileNodeAddress, 5241, correspondingNodeAddress, 100, 100⟩ (by decide)
  have hnamed := List.mem_map_of_mem (f := namedHomeAgent) hd
  have hstranger : namedHomeAgent ⟨1, .request d⟩ = some correspondingNodeAddress :=
    congrArg some hagent
  rw [hstranger] at hnamed
  exact absurd hnamed (by decide)

end Examples

end MobileIPForeignAgent

end MobileIP
