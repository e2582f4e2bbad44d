import MobileIP.Proofs.NodeTimer

/-! What the mobile node makes of a reply, and what it never changes. -/

namespace MobileIP

namespace MobileIPNode

variable {mn mn' : MobileIPNode} {A : IPAddress}

/-- The source of the reply is the destination of a request it answers, if it answers any. -/
def Genuine (mn : MobileIPNode) (reply : RegistrationReply) : Prop :=
  (∃ it ∈ mn.requests, it.identification = reply.identification) →
    ∃ it ∈ mn.requests, it.identification = reply.identification ∧ reply.IP.source = it.destination

theorem push_cases {ctx : SendContext} {p : Packet} {out : List Emission}
    (h : mn.push ctx p = .ok (mn', out)) : (mn' = mn ∧ out = []) ∨
      ∃ reply, getPacketType p = .reply ∧ (processRegistrationReplyPacket p).1 = .ok reply ∧
        mn.checkReplyValidity reply = .ok true ∧ mn.processReply ctx reply = (mn', out) := by
  unfold push at h
  split_ifs at h with hp
  · cases h
    exact Or.inl ⟨rfl, rfl⟩
  · split at h
    · cases h
      exact Or.inl ⟨rfl, rfl⟩
    · cases h
    · next reply hreads =>
      unfold receiveReply at h
      split at h
      · cases h
      · next hv => exact Or.inr ⟨reply, not_not.1 hp, hreads, hv, Except.ok.inj h⟩
      · cases h
        exact Or.inl ⟨rfl, rfl⟩

def Retries (mn : MobileIPNode) (reply : RegistrationReply) : Prop :=
  reply.code = 69 ∨ (reply.code = 136 ∧ mn.connection.isHome = true)

theorem processReply_sends {Q : IPAddress → UInt16 → Prop}
    (h : ∀ it ∈ mn.requests, Q it.destination it.requestedLifetime.toUInt16)
    {reply : RegistrationReply}
    (hQ : mn.Retries reply → (∃ it ∈ mn.requests, it.identification = reply.identification) →
      Q reply.IP.source reply.lifetime.toUInt16) (ctx : SendContext) :
    Sends Q (mn.processReply ctx reply) := by
  unfold processReply
  cases hr : RequestList.remove reply.identification mn.requests with
  | error _ => exact sends_nil h
  | ok res =>
    obtain ⟨request, rest⟩ := res
    obtain ⟨pre, post, hl, rfl, hid, -⟩ := RequestList.remove_ok hr
    have hmem : request ∈ mn.requests := by simp [hl]
    have hrest : ∀ it ∈ pre ++ post, Q it.destination it.requestedLifetime.toUInt16 := by
      intro it hit
      refine h it ?_
      rw [hl]
      simp only [List.mem_append, List.mem_cons] at hit ⊢
      tauto
    dsimp only
    split_ifs with hacc htoo hunknown hhome
    · exact sends_nil hrest
    · refine sendRequest_sends ?_ ctx _ _ _ _ (hQ (Or.inl htoo) ⟨request, hmem, hid⟩)
      exact hrest
    · refine sendRequest_sends ?_ ctx _ _ _ _ (hQ (Or.inr ⟨hunknown, hhome⟩) ⟨request, hmem, hid⟩)
      exact hrest
    · exact sends_nil hrest
    · exact sends_nil hrest

theorem processReply_agentAddress (mn : MobileIPNode) (ctx : SendContext)
    (reply : RegistrationReply) :
    (mn.processReply ctx reply).1.connection.agentAddress = mn.connection.agentAddress := by
  unfold processReply
  split
  · rfl
  · dsimp only
    split_ifs <;> rfl

theorem processReply_sendsTo (h : mn.Aimed A) {reply : RegistrationReply} (hg : mn.Genuine reply)
    (ctx : SendContext) : SendsTo A (mn.processReply ctx reply) := by
  have hsource : (∃ it ∈ mn.requests, it.identification = reply.identification) →
      reply.IP.source = A := by
    intro hid
    obtain ⟨it, hit, -, hsource⟩ := hg hid
    exact hsource.trans (h.requests it hit)
  exact (processReply_sends h.requests (fun _ hid => hsource hid) ctx).sendsTo
    ((processReply_agentAddress _ _ _).trans h.connection)

theorem toNat_abs (x : UInt32) :
    (abs x).toNat = if x.toNat < 2147483648 then x.toNat else 4294967296 - x.toNat := by
  have := x.toNat_lt
  unfold abs
  by_cases h : x.toNat < 2147483648
  · have hlt : x < 2147483648 := UInt32.lt_iff_toNat_lt.2 h
    rw [if_pos hlt, if_pos h]
  · have hlt : ¬ x < 2147483648 := fun hlt => h (UInt32.lt_iff_toNat_lt.1 hlt)
    rw [if_neg hlt, if_neg h, UInt32.toNat_sub]
    change (4294967296 - x.toNat + 0) % 4294967296 = _
    omega

/-- The lifetime left after an accepting reply: both subtractions are modulo `2 ^ 32`. -/
theorem toNat_lifetimeLeft (granted requested : UInt32) :
    (requested - abs (granted - requested)).toNat =
      (4294967296 - (if (4294967296 - requested.toNat + granted.toNat) % 4294967296 < 2147483648 then
          (4294967296 - requested.toNat + granted.toNat) % 4294967296
        else 4294967296 - (4294967296 - requested.toNat + granted.toNat) % 4294967296) +
        requested.toNat) % 4294967296 := by
  have hsub : (granted - requested).toNat = (4294967296 - requested.toNat + granted.toNat) %
      4294967296 := UInt32.toNat_sub _ _
  rw [UInt32.toNat_sub, toNat_abs, hsub]

theorem sub_abs_sub {granted requested : UInt32} (h : granted.toNat ≤ requested.toNat)
    (hr : requested.toNat ≤ 65535) : requested - abs (granted - requested) = granted := by
  refine UInt32.toNat_inj.1 ?_
  rw [toNat_lifetimeLeft]
  -- the difference does not wrap only if it is zero
  split_ifs <;> omega

theorem receiveReply_accepted {base : RequestList} {item : RequestListItem}
    {reply : RegistrationReply} (hreq : mn.requests = base ++ [item])
    (hbase : ∀ x ∈ base, x.identification ≠ item.identification)
    (hid : reply.identification = item.identification)
    (hport : reply.UDP.destinationPort = mn.sourcePort) (hcode : reply.code = 0)
    (ctx : SendContext) : mn.receiveReply ctx reply =
      .ok ({ mn with requests := base, connection := mn.accept reply item }, []) := by
  have hremove : RequestList.remove item.identification (base ++ [item]) = .ok (item, base) :=
    RequestList.remove_append_last rfl hbase
  simp only [receiveReply, checkReplyValidity, hreq, RequestList.getLastRequest_append, hid, hport,
    ne_eq, not_true_eq_false, if_false, processReply, hremove, hcode, true_or, if_true]
  rfl

theorem receiveReply_too_long {base : RequestList} {item : RequestListItem}
    {reply : RegistrationReply} (hreq : mn.requests = base ++ [item])
    (hbase : ∀ x ∈ base, x.identification ≠ item.identification)
    (hid : reply.identification = item.identification)
    (hport : reply.UDP.destinationPort = mn.sourcePort) (hcode : reply.code = 69)
    (ctx : SendContext) : mn.receiveReply ctx reply =
      .ok ({ mn with
        requests := base
        connection := { mn.connection with lifetime := reply.lifetime } }.registerFA ctx
          reply.IP.source item.careOfAddress reply.lifetime) := by
  have hremove : RequestList.remove item.identification (base ++ [item]) = .ok (item, base) :=
    RequestList.remove_append_last rfl hbase
  have hnot : ¬ ((69 : UInt32) = 0 ∨ (69 : UInt32) = 1) := by decide
  simp only [receiveReply, checkReplyValidity, hreq, RequestList.getLastRequest_append, hid, hport,
    ne_eq, not_true_eq_false, if_false, processReply, hremove, hcode, if_true]
  rw [if_neg hnot]

theorem receiveReply_error {ctx : SendContext} {reply : RegistrationReply} {e : Exception}
    (h : mn.receiveReply ctx reply = .error e) :
    e = .undefinedBehaviour "requests.back()" ∧ mn.requests = [] := by
  unfold receiveReply checkReplyValidity RequestList.getLastRequest at h
  cases hlast : mn.requests.getLast? with
  | none =>
    simp only [hlast, Except.error.injEq] at h
    exact ⟨h.symm, List.getLast?_eq_none_iff.1 hlast⟩
  | some last =>
    simp only [hlast] at h
    split_ifs at h

structure SameSetup (mn mn' : MobileIPNode) : Prop where
  homeAddress : mn'.homeAddress = mn.homeAddress
  homeAgentPrivateAddress : mn'.homeAgentPrivateAddress = mn.homeAgentPrivateAddress
  sourcePort : mn'.sourcePort = mn.sourcePort

theorem SameSetup.refl (mn : MobileIPNode) : SameSetup mn mn := ⟨rfl, rfl, rfl⟩

theorem SameSetup.trans {mn'' : MobileIPNode} (h : SameSetup mn mn') (h' : SameSetup mn' mn'') :
    SameSetup mn mn'' :=
  ⟨h'.homeAddress.trans h.homeAddress,
    h'.homeAgentPrivateAddress.trans h.homeAgentPrivateAddress, h'.sourcePort.trans h.sourcePort⟩

theorem reregister_sameSetup (mn : MobileIPNode) (ctx : SendContext)
    (address careOfAddress : IPAddress) (lifetime : UInt32) :
    SameSetup mn (mn.reregister ctx address careOfAddress lifetime).1 := by
  unfold reregister
  split_ifs <;> exact ⟨rfl, rfl, rfl⟩

theorem resendRequests_sameSetup (mn : MobileIPNode) (ctx : ℕ → SendContext)
    (timedOut : List RequestListItem) : SameSetup mn (mn.resendRequests ctx timedOut).1 := by
  induction timedOut generalizing mn ctx with
  | nil => exact .refl mn
  | cons request timedOut ih =>
    have hsent : SameSetup mn (mn.sendRequest (ctx 0) request.destination request.careOfAddress
      request.requestedLifetime request.ttl).1 := ⟨rfl, rfl, rfl⟩
    exact hsent.trans (ih _ _)

theorem runTimer_sameSetup (mn : MobileIPNode) (ctx : ℕ → SendContext) :
    SameSetup mn (mn.runTimer ctx).1 := by
  have hrenew : ∀ (mn : MobileIPNode) ctx, SameSetup mn (mn.renewConnection ctx).1 := by
    intro mn ctx
    unfold renewConnection
    dsimp only
    split_ifs <;> exact ⟨rfl, rfl, rfl⟩
  have hresend := resendRequests_sameSetup { mn with requests :=
    (RequestList.removeTimedOutRequests mn.requestTimeout
      (RequestList.decreaseLifetime mn.requests)).2 } ctx
      (RequestList.removeTimedOutRequests mn.requestTimeout
        (RequestList.decreaseLifetime mn.requests)).1
  exact SameSetup.trans ⟨hresend.1, hresend.2, hresend.3⟩ (hrenew _ _)

theorem processReply_sameSetup (mn : MobileIPNode) (ctx : SendContext) (reply : RegistrationReply) :
    SameSetup mn (mn.processReply ctx reply).1 := by
  unfold processReply
  split
  · exact .refl mn
  · dsimp only
    split_ifs <;> exact ⟨rfl, rfl, rfl⟩

theorem sameSetup_step {e : MNEvent} {out : List Emission} (h : mn.step e = .ok (mn', out)) :
    SameSetup mn mn' := by
  cases e with
  | reregister ctx address careOfAddress lifetime =>
    have := reregister_sameSetup mn ctx address careOfAddress lifetime
    rw [Except.ok.inj h] at this
    exact this
  | push ctx p =>
    rcases push_cases h with ⟨rfl, -⟩ | ⟨reply, -, -, -, heq⟩
    · exact .refl _
    · have := processReply_sameSetup mn ctx reply
      rw [heq] at this
      exact this
  | runTimer ctx =>
    have := runTimer_sameSetup mn ctx
    rw [Except.ok.inj h] at this
    exact this
  | requestTimeout value => cases h; exact ⟨rfl, rfl, rfl⟩

end MobileIPNode

end MobileIP
