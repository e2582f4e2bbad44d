import MobileIP.Proofs.HomeAgentReplies
import MobileIP.Proofs.Node
import MobileIP.Proofs.PendingRequests
import MobileIP.Proofs.ReplySources
import MobileIP.Proofs.Visitors

/-! What each of the three parties may hold and send, where all is for one mobile node and for
care-of addresses that the node was told to register. -/

namespace MobileIP

/-- The message is for the node at `home`, and if it is a request, for a care-of address in `A`. -/
def RegistrationMessage.Sound (home : IPAddress) (A : IPAddress → Prop) : RegistrationMessage → Prop
  | .request d => d.payload.type = 1 ∧ d.payload.homeAddress = home ∧ A d.payload.careOfAddress
  | .reply d => d.payload.type = 3 ∧ d.payload.homeAddress = home

variable {home : IPAddress} {A : IPAddress → Prop}

namespace MobileIPNode

structure Within (mn : MobileIPNode) (home : IPAddress) (A : IPAddress → Prop) : Prop where
  home : mn.homeAddress = home
  requests : ∀ it ∈ mn.requests, A it.careOfAddress
  connection : A mn.connection.careOfAddress

/-- The node stays within `A`, and so does what it sends, all of it requests. -/
structure Asks (home : IPAddress) (A : IPAddress → Prop) (r : MobileIPNode × List Emission) :
    Prop where
  within : r.1.Within home A
  out : ∀ e ∈ r.2, ∃ d, e = ⟨0, .request d⟩ ∧ RegistrationMessage.Sound home A (.request d)

variable {mn : MobileIPNode}

theorem asks_nil (h : mn.Within home A) : Asks home A (mn, []) := ⟨h, by simp⟩

theorem sendRequest_asks (h : mn.Within home A) (ctx : SendContext)
    (destination : IPAddress) {careOfAddress : IPAddress} (hc : A careOfAddress)
    (lifetime ttl : UInt32) :
    Asks home A (mn.sendRequest ctx destination careOfAddress lifetime ttl) := by
  refine ⟨⟨h.home, ?_, h.connection⟩, ?_⟩
  · intro it hit
    rcases List.mem_append.1 hit with hit | hit
    · exact h.requests it hit
    · rw [List.mem_singleton.1 hit]
      exact hc
  · intro e he
    rw [List.mem_singleton.1 he]
    exact ⟨_, rfl, rfl, h.home, hc⟩

theorem reregister_asks (h : mn.Within home A) (ctx : SendContext) (address : IPAddress)
    {careOfAddress : IPAddress} (hc : A careOfAddress) (lifetime : UInt32) :
    Asks home A (mn.reregister ctx address careOfAddress lifetime) := by
  unfold reregister
  split_ifs
  · -- the care-of address of the connection is the one that is given up
    have hsent := sendRequest_asks h ctx mn.homeAgentPrivateAddress h.connection 0 1
    exact ⟨⟨hsent.within.home, hsent.within.requests, hc⟩, hsent.out⟩
  · have hsent := sendRequest_asks h ctx address hc lifetime 1
    exact ⟨⟨hsent.within.home, hsent.within.requests, hc⟩, hsent.out⟩

theorem resendRequests_asks (h : mn.Within home A) {timedOut : List RequestListItem}
    (ht : ∀ it ∈ timedOut, A it.careOfAddress) (ctx : ℕ → SendContext) :
    Asks home A (mn.resendRequests ctx timedOut) := by
  induction timedOut generalizing mn ctx with
  | nil => exact asks_nil h
  | cons request timedOut ih =>
    rw [List.forall_mem_cons] at ht
    have hfirst := sendRequest_asks h (ctx 0) request.destination ht.1 request.requestedLifetime
      request.ttl
    have hrest := ih hfirst.within ht.2 fun i => ctx (i + 1)
    exact ⟨hrest.within, List.forall_mem_append.2 ⟨hfirst.out, hrest.out⟩⟩

theorem resent_asks (h : mn.Within home A) (ctx : ℕ → SendContext) :
    Asks home A (mn.resent ctx) := by
  have hwait : ∀ it ∈ (mn.requests.filterMap RequestList.countDown).map RequestList.wait,
      A it.careOfAddress := by
    intro it hit
    obtain ⟨c, hc, rfl⟩ := List.mem_map.1 hit
    obtain ⟨it₀, hit₀, hc⟩ := List.mem_filterMap.1 hc
    have hA := h.requests it₀ hit₀
    rw [← (countDown_request hc).2.1] at hA
    exact hA
  rw [resent, RequestList.decreaseLifetime_eq, RequestList.removeTimedOutRequests_eq]
  refine resendRequests_asks ?_ (fun it hit => hwait it (List.mem_filter.1 hit).1) ctx
  exact ⟨h.home, fun it hit => hwait it (List.mem_filter.1 hit).1, h.connection⟩

theorem renewConnection_asks (h : mn.Within home A) (ctx : SendContext) :
    Asks home A (mn.renewConnection ctx) := by
  by_cases hr : Renews mn.connection mn.requests
  · rw [renewConnection_renews hr]
    refine sendRequest_asks ?_ ctx _ h.connection _ _
    exact ⟨h.home, h.requests, h.connection⟩
  · rw [renewConnection_idle hr]
    refine asks_nil ⟨h.home, h.requests, ?_⟩
    dsimp only
    split_ifs
    · exact h.connection
    · exact h.connection

theorem runTimer_asks (h : mn.Within home A) (ctx : ℕ → SendContext) :
    Asks home A (mn.runTimer ctx) := by
  obtain ⟨ctx', heq⟩ := mn.runTimer_eq ctx
  have hresent := resent_asks h ctx
  have hrenewed := renewConnection_asks hresent.within ctx'
  rw [heq]
  exact ⟨hrenewed.within, List.forall_mem_append.2 ⟨hresent.out, hrenewed.out⟩⟩

theorem processReply_asks (h : mn.Within home A) (ctx : SendContext) (reply : RegistrationReply) :
    Asks home A (mn.processReply ctx reply) := by
  unfold processReply
  cases hr : RequestList.remove reply.identification mn.requests with
  | error _ => exact asks_nil h
  | ok res =>
    obtain ⟨request, rest⟩ := res
    obtain ⟨pre, post, hl, rfl, -⟩ := RequestList.remove_ok hr
    have hmem : A request.careOfAddress := h.requests request (by simp [hl])
    have hrest : ∀ it ∈ pre ++ post, A it.careOfAddress := by
      intro it hit
      refine h.requests it ?_
      rw [hl]
      simp only [List.mem_append, List.mem_cons] at hit ⊢
      exact hit.imp_right Or.inr
    dsimp only
    split_ifs
    · exact asks_nil ⟨h.home, hrest, h.connection⟩
    · refine sendRequest_asks ?_ ctx _ hmem _ _
      exact ⟨h.home, hrest, h.connection⟩
    · refine sendRequest_asks ?_ ctx _ hmem _ _
      exact ⟨h.home, hrest, h.connection⟩
    · exact asks_nil ⟨h.home, hrest, h.connection⟩
    · exact asks_nil ⟨h.home, hrest, h.connection⟩

theorem receiveReply_asks (h : mn.Within home A) {ctx : SendContext} {reply : RegistrationReply}
    {r : MobileIPNode × List Emission} (hr : mn.receiveReply ctx reply = .ok r) :
    Asks home A r := by
  unfold receiveReply at hr
  split at hr
  · cases hr
  · cases hr
    exact processReply_asks h ctx reply
  · cases hr
    exact asks_nil h

end MobileIPNode

namespace MobileIPForeignAgent

structure Serves (fa : MobileIPForeignAgent) (home : IPAddress) (A : IPAddress → Prop) : Prop where
  requests : ∀ it ∈ fa.requests, it.rr.home = home ∧ A fa.careOfAddress
  visitors : ∀ v ∈ fa.visitors, v.MNhome = home ∧ A fa.careOfAddress

/-- The foreign agent goes on so, and sends replies to the node and requests to its home agent. -/
structure Forwards (home : IPAddress) (A : IPAddress → Prop) (source : IPAddress)
    (r : MobileIPForeignAgent × List Emission) : Prop where
  serves : r.1.Serves home A
  careOf : r.1.careOfAddress = source
  out : ∀ e ∈ r.2, (∃ d, e = ⟨0, .reply d⟩ ∧ RegistrationMessage.Sound home A (.reply d)) ∨
    ∃ d, e = ⟨1, .request d⟩ ∧ d.source = source ∧ RegistrationMessage.Sound home A (.request d)

variable {fa : MobileIPForeignAgent}

theorem forwards_nil (h : fa.Serves home A) : Forwards home A fa.careOfAddress (fa, []) :=
  ⟨h, rfl, by simp⟩

theorem sendReply_sound {registration : RegistrationRequest} (hhome : registration.home = home)
    (clock : Clock) (code : UInt8) (lifetime : UInt32) :
    ∀ e ∈ fa.sendReply clock registration code lifetime,
      ∃ d, e = ⟨0, .reply d⟩ ∧ RegistrationMessage.Sound home A (.reply d) := by
  intro e he
  rw [List.mem_singleton.1 he]
  exact ⟨_, rfl, rfl, hhome⟩

theorem relayRequest_forwards (h : fa.Serves home A) (registration : RegistrationRequest)
    (hhome : registration.home = home) (hc : A registration.careOf) (clock : Clock) (ttl : UInt32) :
    Forwards home A fa.careOfAddress (fa.relayRequest clock ttl registration) := by
  by_cases hport : registration.UDP.destinationPort = 434
  · by_cases hpass : fa.Passes registration ∧
        registration.lifetime.toNat ≤ fa.maxAcceptedLifetime.toNat
    · have hcare : A fa.careOfAddress := hpass.1.careOf ▸ hc
      rw [relayRequest_of_passes hpass.1 hpass.2]
      refine ⟨⟨?_, h.visitors⟩, rfl, ?_⟩
      · intro it hit
        rcases List.mem_append.1 hit with hit | hit
        · exact h.requests it hit
        · rw [List.mem_singleton.1 hit]
          exact ⟨hhome, hcare⟩
      · intro e he
        rw [List.mem_singleton.1 he]
        exact Or.inr ⟨_, rfl, rfl, rfl, hhome, hcare⟩
    · obtain ⟨code, lifetime, heq⟩ := relayRequest_of_refuses ⟨hport, hpass⟩ clock ttl
      rw [heq]
      exact ⟨h, rfl, fun e he => Or.inl (sendReply_sound hhome clock code lifetime e he)⟩
  · have hdropped : fa.relayRequest clock ttl registration = (fa, []) := by
      rw [relayRequest, checkRequestValidity, if_pos hport]
    rw [hdropped]
    exact forwards_nil h

theorem relayReply_forwards (h : fa.Serves home A) (reply : RegistrationReply)
    (hhome : reply.home = home) (clock : Clock) :
    Forwards home A fa.careOfAddress (fa.relayReply clock reply) := by
  have hrelay : fa.relayReply clock reply =
      ((fa.relayReply clock reply).1, (fa.relayReply clock reply).2) := rfl
  rcases relayReply_cases hrelay with ⟨requests, hsub, hfa, -, hout⟩ |
    ⟨request, requests, hans, hsub, hfa, hout⟩
  · refine ⟨?_, by rw [hfa], ?_⟩
    · rw [hfa]
      exact ⟨fun it hit => h.requests it (hsub.subset hit), h.visitors⟩
    · rw [hout]
      simp
  · have hcare : A fa.careOfAddress := (h.requests request hans.request.1).2
    refine ⟨?_, by rw [hfa], ?_⟩
    · rw [hfa]
      refine ⟨fun it hit => h.requests it (hsub.subset hit), fun v hv => ?_⟩
      rcases mem_updateVisitors hv with hv | ⟨-, hmatches, -⟩
      · exact h.visitors v hv
      · exact ⟨hmatches.1.trans hhome, hcare⟩
    · rw [hout, sendReplyFromHA_eq]
      intro e he
      rw [List.mem_singleton.1 he]
      exact Or.inl ⟨_, rfl, rfl, hhome⟩

theorem sendRequestTimedOutReply_sound {requests : List RequestListItem}
    (h : ∀ it ∈ requests, it.rr.home = home) (clock : ℕ → Clock) :
    ∀ e ∈ fa.sendRequestTimedOutReply clock requests,
      ∃ d, e = ⟨0, .reply d⟩ ∧ RegistrationMessage.Sound home A (.reply d) := by
  induction requests generalizing clock with
  | nil => simp [sendRequestTimedOutReply]
  | cons request requests ih =>
    rw [List.forall_mem_cons] at h
    exact List.forall_mem_append.2 ⟨sendReply_sound h.1 (clock 0) 78 request.rr.lifetime,
      ih h.2 fun i => clock (i + 1)⟩

theorem runTimer_forwards (h : fa.Serves home A) (clock : ℕ → Clock) :
    Forwards home A fa.careOfAddress (fa.runTimer clock) := by
  have hwait : ∀ it ∈ (fa.requests.filterMap RequestList.countDown).map RequestList.wait,
      it.rr.home = home ∧ A fa.careOfAddress := by
    intro it hit
    obtain ⟨c, hc, rfl⟩ := List.mem_map.1 hit
    obtain ⟨it₀, hit₀, hc⟩ := List.mem_filterMap.1 hc
    have hrr : c.rr = it₀.rr := by
      unfold RequestList.countDown at hc
      split_ifs at hc
      · cases hc
        rfl
      · cases hc
        rfl
    have hA := h.requests it₀ hit₀
    rw [← hrr] at hA
    exact hA
  have htimer : fa.runTimer clock = ({ fa with
      requests := (RequestList.removeTimedOutRequests fa.requestTimeout
        (RequestList.decreaseLifetime fa.requests)).2
      visitors := VisitorList.decreaseLifetime fa.visitors },
      fa.sendRequestTimedOutReply clock (RequestList.removeTimedOutRequests fa.requestTimeout
        (RequestList.decreaseLifetime fa.requests)).1) := rfl
  rw [htimer, RequestList.decreaseLifetime_eq, RequestList.removeTimedOutRequests_eq]
  refine ⟨⟨fun it hit => hwait it (List.mem_filter.1 hit).1, fun v hv => ?_⟩, rfl, fun e he => ?_⟩
  · rw [VisitorList.decreaseLifetime_eq] at hv
    obtain ⟨v₀, hv₀, hc⟩ := List.mem_filterMap.1 hv
    obtain ⟨hkey, -⟩ := Prod.mk.inj (VisitorList.countDown_key hc)
    have hA := h.visitors v₀ hv₀
    exact ⟨hkey.trans hA.1, hA.2⟩
  · exact Or.inl (sendRequestTimedOutReply_sound
      (fun it hit => (hwait it (List.mem_filter.1 hit).1).1) clock e he)

end MobileIPForeignAgent

namespace MobileIPHomeAgent

def Binds (ha : MobileIPHomeAgent) (home : IPAddress) (A : IPAddress → Prop) : Prop :=
  ∀ it ∈ ha.mobilityBindings, it.homeAddress = home ∧ A it.careOfAddress

variable {ha : MobileIPHomeAgent}

theorem processRegistration_binds (h : ha.Binds home A) (registration : RegistrationRequest)
    (hhome : registration.home = home) (hc : A registration.careOf) (clock : Clock) (port : ℕ) :
    (ha.processRegistration clock port registration).1.Binds home A ∧
      ∀ e ∈ (ha.processRegistration clock port registration).2, ∃ output d,
        e = ⟨output, .reply d⟩ ∧ RegistrationMessage.Sound home A (.reply d) := by
  by_cases hadm : ha.Admits registration
  · rw [processRegistration_of_admits hadm]
    constructor
    · intro it hit
      change it ∈ ha.bindingsAfter registration at hit
      unfold bindingsAfter at hit
      split_ifs at hit
      · rw [MobilityBindingList.removeAll_eq] at hit
        exact h it (List.mem_filter.1 hit).1
      · rw [MobilityBindingList.remove_eq] at hit
        exact h it (List.mem_filter.1 hit).1
      · rcases MobilityBindingList.eq_or_mem_of_mem_add hit with rfl | hit
        · exact ⟨hhome, hc⟩
        · exact h it hit
    · intro e he
      rw [List.mem_singleton.1 he]
      exact ⟨_, _, rfl, rfl, hhome⟩
  · rw [(processRegistration_of_not_admits hadm clock port).1]
    refine ⟨h, ?_⟩
    intro e he
    rcases processRegistration_refuses hadm clock port with hout |
      ⟨output, lifetime, code, homeAgent, source, -, hout⟩
    · rw [hout] at he
      cases he
    · rw [hout] at he
      rw [List.mem_singleton.1 he]
      exact ⟨_, _, rfl, rfl, hhome⟩

theorem runTimer_binds (h : ha.Binds home A) : ha.runTimer.Binds home A := by
  intro it hit
  change it ∈ MobilityBindingList.decreaseLifetime ha.mobilityBindings at hit
  rw [MobilityBindingList.decreaseLifetime_eq] at hit
  obtain ⟨it₀, hit₀, hc⟩ := List.mem_filterMap.1 hit
  obtain ⟨hkey, hcare⟩ := Prod.mk.inj (MobilityBindingList.countDown_key hc)
  rw [hkey, hcare]
  exact h it₀ hit₀

end MobileIPHomeAgent

end MobileIP
