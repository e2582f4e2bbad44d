import MobileIP.Proofs.Provenance

/-! What an element makes of one message: the node asks again on some replies, and either agent
answers with one message at most. -/

namespace MobileIP

namespace MobileIPNode

variable {mn : MobileIPNode} {out : List Emission}

/-- All that the node sends are requests that name the home agent it knows. -/
structure Names (mn : MobileIPNode) (r : MobileIPNode × List Emission) : Prop where
  address : r.1.homeAgentPublicAddress = mn.homeAgentPublicAddress
  out : ∀ e ∈ r.2, ∃ d, e = ⟨0, .request d⟩ ∧ d.payload.homeAgent = mn.homeAgentPublicAddress

theorem sendRequest_names (mn : MobileIPNode) (ctx : SendContext)
    (destination careOfAddress : IPAddress) (lifetime ttl : UInt32) :
    mn.Names (mn.sendRequest ctx destination careOfAddress lifetime ttl) := by
  refine ⟨rfl, fun e he => ?_⟩
  rw [List.mem_singleton.1 he]
  exact ⟨_, rfl, rfl⟩

theorem reregister_names (mn : MobileIPNode) (ctx : SendContext) (address careOfAddress : IPAddress)
    (lifetime : UInt32) : mn.Names (mn.reregister ctx address careOfAddress lifetime) := by
  unfold reregister
  split_ifs
  · have hsent := mn.sendRequest_names ctx mn.homeAgentPrivateAddress
      mn.connection.careOfAddress 0 1
    exact ⟨hsent.address, hsent.out⟩
  · have hsent := mn.sendRequest_names ctx address careOfAddress lifetime 1
    exact ⟨hsent.address, hsent.out⟩

theorem resendRequests_names (mn : MobileIPNode) (ctx : ℕ → SendContext)
    (timedOut : List RequestListItem) : mn.Names (mn.resendRequests ctx timedOut) := by
  induction timedOut generalizing mn ctx with
  | nil => exact ⟨rfl, by simp [resendRequests]⟩
  | cons request timedOut ih =>
    have hfirst := mn.sendRequest_names (ctx 0) request.destination request.careOfAddress
      request.requestedLifetime request.ttl
    have hrest := ih (mn.sendRequest (ctx 0) request.destination request.careOfAddress
      request.requestedLifetime request.ttl).1 fun i => ctx (i + 1)
    exact ⟨hrest.address, List.forall_mem_append.2 ⟨hfirst.out, hrest.out⟩⟩

theorem renewConnection_names (mn : MobileIPNode) (ctx : SendContext) :
    mn.Names (mn.renewConnection ctx) := by
  by_cases hr : Renews mn.connection mn.requests
  · rw [renewConnection_renews hr]
    have hsent := sendRequest_names { mn with connection := { mn.connection with
      remainingLifetime := mn.connection.remainingLifetime - 1 } } ctx mn.connection.agentAddress
      mn.connection.careOfAddress mn.connection.lifetime 1
    exact ⟨hsent.address, hsent.out⟩
  · rw [renewConnection_idle hr]
    exact ⟨rfl, by simp⟩

theorem runTimer_names (mn : MobileIPNode) (ctx : ℕ → SendContext) :
    mn.Names (mn.runTimer ctx) := by
  obtain ⟨ctx', heq⟩ := mn.runTimer_eq ctx
  have hresent : mn.Names (mn.resent ctx) := by
    have hsent := resendRequests_names { mn with
      requests := (RequestList.removeTimedOutRequests mn.requestTimeout
        (RequestList.decreaseLifetime mn.requests)).2 } ctx
      (RequestList.removeTimedOutRequests mn.requestTimeout
        (RequestList.decreaseLifetime mn.requests)).1
    exact ⟨hsent.address, hsent.out⟩
  have hrenewed := (mn.resent ctx).1.renewConnection_names ctx'
  rw [heq]
  refine ⟨hrenewed.address.trans hresent.address, List.forall_mem_append.2 ⟨hresent.out, ?_⟩⟩
  intro e he
  obtain ⟨d, rfl, hd⟩ := hrenewed.out e he
  exact ⟨d, rfl, hd.trans hresent.address⟩

def AsksAgain (reply : RegistrationReply) (r : MobileIPNode × List Emission) : Prop :=
  ∃ d, r.2 = [⟨0, .request d⟩] ∧ d.payload.homeAgent = r.1.homeAgentPublicAddress ∧
    d.payload.lifetime = reply.lifetime.toUInt16

/-- What a node makes of a reply: no more than a note, or another request with the lifetime that it
names; and by one code it learns of its home agent. -/
def Heeds (mn : MobileIPNode) (reply : RegistrationReply) (r : MobileIPNode × List Emission) :
    Prop :=
  (r.1.homeAgentPublicAddress = mn.homeAgentPublicAddress ∧ r.2 = []) ∨
  (reply.code = 69 ∧ r.1.homeAgentPublicAddress = mn.homeAgentPublicAddress ∧ AsksAgain reply r) ∨
  (reply.code = 136 ∧ r.1.homeAgentPublicAddress = reply.homeAgent ∧ (r.2 = [] ∨ AsksAgain reply r))

theorem processReply_heeds (mn : MobileIPNode) (ctx : SendContext) (reply : RegistrationReply) :
    mn.Heeds reply (mn.processReply ctx reply) := by
  unfold processReply
  cases RequestList.remove reply.identification mn.requests with
  | error _ => exact Or.inl ⟨rfl, rfl⟩
  | ok res =>
    dsimp only
    split_ifs with haccept hlong hunknown hhome
    · exact Or.inl ⟨rfl, rfl⟩
    · exact Or.inr (Or.inl ⟨hlong, rfl, _, rfl, rfl, rfl⟩)
    · exact Or.inr (Or.inr ⟨hunknown, rfl, Or.inr ⟨_, rfl, rfl, rfl⟩⟩)
    · exact Or.inr (Or.inr ⟨hunknown, rfl, Or.inl rfl⟩)
    · exact Or.inl ⟨rfl, rfl⟩

theorem receiveReply_heeds {ctx : SendContext} {reply : RegistrationReply}
    {r : MobileIPNode × List Emission} (h : mn.receiveReply ctx reply = .ok r) :
    mn.Heeds reply r := by
  unfold receiveReply at h
  split at h
  · cases h
  · cases h
    exact mn.processReply_heeds ctx reply
  · cases h
    exact Or.inl ⟨rfl, rfl⟩

end MobileIPNode

namespace MobileIPForeignAgent

/-- The request has been answered by one reply at most, which names the home agent of the request,
and a shorter lifetime if it makes the node ask again. -/
def Refused (registration : RegistrationRequest) (out : List Emission) : Prop :=
  out = [] ∨ ∃ d, out = [⟨0, .reply d⟩] ∧ d.payload.homeAgent = registration.homeAgent ∧
    d.payload.code ≠ 136 ∧
    (d.payload.code = 69 → d.payload.lifetime.toNat < registration.lifetime.toNat)

theorem checkRequestValidity_refused (fa : MobileIPForeignAgent) (clock : Clock)
    (registration : RegistrationRequest) :
    (fa.checkRequestValidity clock registration).1 = true ∨
      Refused registration (fa.checkRequestValidity clock registration).2 := by
  let P : Bool × List Emission → Prop := fun r => r.1 = true ∨ Refused registration r.2
  have hreply (code : UInt8) (lifetime : UInt32) (h69 : code ≠ 69) (h136 : code ≠ 136) :
      P (false, fa.sendReply clock registration code lifetime) :=
    Or.inr (Or.inr ⟨_, rfl, rfl, h136, fun h => absurd h h69⟩)
  refine iteInduction (motive := P) (fun _ => Or.inr (Or.inl rfl)) fun _ => ?_
  refine iteInduction (motive := P) (fun _ => hreply _ _ (by decide) (by decide)) fun _ => ?_
  refine iteInduction (motive := P) (fun _ => hreply _ _ (by decide) (by decide)) fun _ => ?_
  refine iteInduction (motive := P) (fun _ => hreply _ _ (by decide) (by decide)) fun _ => ?_
  refine iteInduction (motive := P) (fun _ => hreply _ _ (by decide) (by decide)) fun _ => ?_
  refine iteInduction (motive := P) (fun hlong => ?_) fun _ => ?_
  · rw [gt_iff_lt, UInt32.lt_iff_toNat_lt] at hlong
    refine Or.inr (Or.inr ⟨_, rfl, rfl, show (69 : UInt8) ≠ 136 by decide, fun _ => ?_⟩)
    exact lt_of_le_of_lt (Nat.mod_le _ _) hlong
  · exact iteInduction (motive := P) (fun _ => hreply _ _ (by decide) (by decide))
      fun _ => Or.inl rfl

theorem relayRequest_sends (fa : MobileIPForeignAgent) (clock : Clock) (ttl : UInt32)
    (registration : RegistrationRequest) :
    Refused registration (fa.relayRequest clock ttl registration).2 ∨
      (fa.relayRequest clock ttl registration).2 =
        [⟨1, .request (fa.relayedDatagram clock registration)⟩] := by
  have hcheck := fa.checkRequestValidity_refused clock registration
  unfold relayRequest
  split
  · next heq =>
    rw [heq] at hcheck
    exact Or.inl (hcheck.resolve_left Bool.false_ne_true)
  · exact Or.inr rfl

theorem sendRequestTimedOutReply_code (fa : MobileIPForeignAgent) (clock : ℕ → Clock)
    (requests : List RequestListItem) : ∀ e ∈ fa.sendRequestTimedOutReply clock requests,
      ∃ d, e = ⟨0, .reply d⟩ ∧ d.payload.code = 78 := by
  induction requests generalizing clock with
  | nil => simp [sendRequestTimedOutReply]
  | cons request requests ih =>
    refine List.forall_mem_append.2 ⟨fun e he => ?_, ih fun i => clock (i + 1)⟩
    rw [List.mem_singleton.1 he]
    exact ⟨_, rfl, rfl⟩

end MobileIPForeignAgent

namespace MobileIPHomeAgent

/-- The request has been answered by one reply at most, and makes the node ask again only if it names
another home agent or was sent to another address. -/
def Answered (ha : MobileIPHomeAgent) (registration : RegistrationRequest) (out : List Emission) :
    Prop :=
  out = [] ∨ ∃ output d, out = [⟨output, .reply d⟩] ∧ d.payload.code ≠ 69 ∧
    (d.payload.code = 136 → d.payload.homeAgent = ha.publicAddress ∧
      ¬ (registration.homeAgent = ha.publicAddress ∧
        (registration.IP.destination = ha.privateAddress ∨
          registration.IP.destination = ha.publicAddress)))

theorem processRegistration_answered (ha : MobileIPHomeAgent) (clock : Clock) (port : ℕ)
    (registration : RegistrationRequest) :
    ha.Answered registration (ha.processRegistration clock port registration).2 := by
  have hreply (code : UInt8) (port : ℕ) (lifetime : UInt32) (h69 : code ≠ 69) (h136 : code ≠ 136) :
      ha.Answered registration (ha.sendReply clock registration code port lifetime) :=
    Or.inr ⟨_, _, rfl, h69, fun h => absurd h h136⟩
  by_cases hadm : ha.Admits registration
  · rw [processRegistration_of_admits hadm]
    exact hreply 0 port _ (by decide) (by decide)
  · rcases processRegistration_stops hadm clock port with heq | heq
    · rw [heq, checkRegistrationValidity]
      split_ifs
      · exact Or.inl rfl
      · exact hreply 134 port _ (by decide) (by decide)
      · exact hreply 128 port _ (by decide) (by decide)
      · exact Or.inl rfl
    · rw [heq]
      simp only [checkForUnkwownHomeAgent]
      by_cases hknown : registration.homeAgent = ha.publicAddress ∧
          (registration.IP.destination = ha.privateAddress ∨
            registration.IP.destination = ha.publicAddress)
      · rw [if_pos hknown]
        exact Or.inl rfl
      · rw [if_neg hknown]
        exact Or.inr ⟨_, _, rfl, show (136 : UInt8) ≠ 69 by decide, fun _ => ⟨rfl, hknown⟩⟩

theorem processRegistration_addresses (ha : MobileIPHomeAgent) (clock : Clock) (port : ℕ)
    (registration : RegistrationRequest) :
    (ha.processRegistration clock port registration).1.publicAddress = ha.publicAddress ∧
      (ha.processRegistration clock port registration).1.privateAddress = ha.privateAddress := by
  by_cases hadm : ha.Admits registration
  · rw [processRegistration_of_admits hadm]
    exact ⟨rfl, rfl⟩
  · rw [(processRegistration_of_not_admits hadm clock port).1]
    exact ⟨rfl, rfl⟩

end MobileIPHomeAgent

end MobileIP
