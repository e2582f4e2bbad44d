import MobileIP.Lib.Run
import MobileIP.Proofs.Lists
import MobileIP.Proofs.Messages
import MobileIP.Spec.ForeignAgent

/-! What one step of the foreign agent can do to its two tables. -/

namespace MobileIP

namespace MobileIPForeignAgent

def ReceivesRequest (e : FAEvent) (clock : Clock) (ttl : UInt32)
    (registration : RegistrationRequest) : Prop :=
  ∃ p, e = .push clock ttl 0 p ∧ getPacketType p = .registration ∧
    (processRegistrationRequestPacket p).1 = .ok registration

def ReceivesReply (e : FAEvent) (clock : Clock) (reply : RegistrationReply) : Prop :=
  ∃ ttl p, e = .push clock ttl 1 p ∧ getPacketType p = .reply ∧
    (processRegistrationReplyPacket p).1 = .ok reply

def Answers (fa : MobileIPForeignAgent) (reply : RegistrationReply) (request : RequestListItem) :
    Prop :=
  ∃ rest, RequestList.remove reply.identification fa.requests = .ok (request, rest) ∧
    fa.checkReplyValidity reply request = true

theorem ReceivesReply.unique {e : FAEvent} {clock clock' : Clock} {reply reply' : RegistrationReply}
    (h : ReceivesReply e clock reply) (h' : ReceivesReply e clock' reply') : reply = reply' := by
  obtain ⟨ttl, p, rfl, -, hr⟩ := h
  obtain ⟨ttl', p', heq, -, hr'⟩ := h'
  obtain ⟨-, -, -, rfl⟩ := FAEvent.push.inj heq
  exact Except.ok.inj (hr.symm.trans hr')

theorem ReceivesRequest.unique {e : FAEvent} {clock clock' : Clock} {ttl ttl' : UInt32}
    {registration registration' : RegistrationRequest}
    (h : ReceivesRequest e clock ttl registration)
    (h' : ReceivesRequest e clock' ttl' registration') : registration = registration' := by
  obtain ⟨p, rfl, -, hr⟩ := h
  obtain ⟨p', heq, -, hr'⟩ := h'
  obtain ⟨-, -, -, rfl⟩ := FAEvent.push.inj heq
  exact Except.ok.inj (hr.symm.trans hr')

theorem ReceivesRequest.step {e : FAEvent} {clock : Clock} {ttl : UInt32}
    {registration : RegistrationRequest} (h : ReceivesRequest e clock ttl registration)
    (fa : MobileIPForeignAgent) :
    fa.step e = .ok ((fa.relayRequest clock ttl registration).1,
      (fa.relayRequest clock ttl registration).2) := by
  obtain ⟨p, rfl, hp, hreg⟩ := h
  simp only [MobileIPForeignAgent.step, push, hp, hreg, and_self, if_true]

theorem ReceivesReply.step {e : FAEvent} {clock : Clock} {reply : RegistrationReply}
    (h : ReceivesReply e clock reply) (fa : MobileIPForeignAgent) :
    fa.step e = .ok ((fa.relayReply clock reply).1, (fa.relayReply clock reply).2) := by
  obtain ⟨ttl, p, rfl, hp, hr⟩ := h
  simp [MobileIPForeignAgent.step, push, hp, hr]

theorem step_runTimer (fa : MobileIPForeignAgent) (clock : ℕ → Clock) :
    fa.step (.runTimer clock) = .ok ((fa.runTimer clock).1, (fa.runTimer clock).2) := rfl

theorem Answers.unique {fa : MobileIPForeignAgent} {reply : RegistrationReply}
    {request request' : RequestListItem} (h : fa.Answers reply request)
    (h' : fa.Answers reply request') : request = request' := by
  obtain ⟨rest, hr, -⟩ := h
  obtain ⟨rest', hr', -⟩ := h'
  exact (Prod.mk.inj (Except.ok.inj (hr.symm.trans hr'))).1

theorem Answers.request {fa : MobileIPForeignAgent} {reply : RegistrationReply}
    {request : RequestListItem} (h : fa.Answers reply request) :
    request ∈ fa.requests ∧ request.identification = reply.identification ∧
      request.rr.home = reply.home ∧ reply.UDP.destinationPort = fa.sourcePort := by
  obtain ⟨rest, hr, hc⟩ := h
  obtain ⟨pre, post, hl, -, hid, -⟩ := RequestList.remove_ok hr
  unfold checkReplyValidity at hc
  split_ifs at hc with hhome hport
  exact ⟨by simp [hl], hid, (not_not.1 hhome).symm, not_not.1 hport⟩

/-- The steps of a foreign agent: it relays a request or a reply, it ticks, or it leaves both its
tables alone. -/
theorem step_cases {fa fa' : MobileIPForeignAgent} {e : FAEvent} {out : List Emission}
    (h : fa.step e = .ok (fa', out)) :
    (∃ clock ttl registration, ReceivesRequest e clock ttl registration ∧
      fa.relayRequest clock ttl registration = (fa', out)) ∨
    (∃ clock reply, ReceivesReply e clock reply ∧ fa.relayReply clock reply = (fa', out)) ∨
    (∃ clock, e = .runTimer clock ∧ fa.runTimer clock = (fa', out)) ∨
    ((∀ clock, e ≠ .runTimer clock) ∧ (∀ clock reply, ¬ ReceivesReply e clock reply) ∧
      fa'.requests = fa.requests ∧ fa'.visitors = fa.visitors ∧ out = []) := by
  cases e with
  | push clock ttl port p =>
    simp only [step, push] at h
    split_ifs at h with hreq hrep
    · obtain ⟨rfl, hp⟩ := hreq
      have hnot : ∀ c r, ¬ ReceivesReply (.push clock ttl 0 p) c r := by
        intro c r hrec
        obtain ⟨_, _, heq, -⟩ := hrec
        simp at heq
      split at h
      · cases h; exact Or.inr (Or.inr (Or.inr ⟨by simp, hnot, rfl, rfl, rfl⟩))
      · cases h; exact Or.inr (Or.inr (Or.inr ⟨by simp, hnot, rfl, rfl, rfl⟩))
      · cases h
      · next registration hreg =>
        exact Or.inl ⟨clock, ttl, registration, ⟨p, rfl, hp, hreg⟩, Except.ok.inj h⟩
    · obtain ⟨rfl, hp⟩ := hrep
      split at h
      all_goals try
        (next herr =>
          cases h
          refine Or.inr (Or.inr (Or.inr ⟨by simp, ?_, rfl, rfl, rfl⟩))
          intro c r hrec
          obtain ⟨_, _, heq, -, hr⟩ := hrec
          obtain ⟨-, -, -, rfl⟩ := FAEvent.push.inj heq
          rw [herr] at hr
          cases hr)
      · cases h
      · next reply hreply =>
        exact Or.inr (Or.inl ⟨clock, reply, ⟨ttl, p, rfl, hp, hreply⟩, Except.ok.inj h⟩)
    · cases h
      refine Or.inr (Or.inr (Or.inr ⟨by simp, ?_, rfl, rfl, rfl⟩))
      intro c r hrec
      obtain ⟨_, _, heq, hp, -⟩ := hrec
      obtain ⟨-, -, rfl, rfl⟩ := FAEvent.push.inj heq
      exact hrep ⟨rfl, hp⟩
  | runTimer clock => exact Or.inr (Or.inr (Or.inl ⟨clock, rfl, Except.ok.inj h⟩))
  | maxLifetime value =>
    cases h
    exact Or.inr (Or.inr (Or.inr ⟨by simp, by simp [ReceivesReply], rfl, rfl, rfl⟩))
  | requestTimeout value =>
    cases h
    exact Or.inr (Or.inr (Or.inr ⟨by simp, by simp [ReceivesReply], rfl, rfl, rfl⟩))
  | maxPendingRegistrations value =>
    cases h
    exact Or.inr (Or.inr (Or.inr ⟨by simp, by simp [ReceivesReply], rfl, rfl, rfl⟩))

/-- The entry that `relayRequest` makes for a request it relays. -/
def pendingItem (fa : MobileIPForeignAgent) (ttl : UInt32) (registration : RegistrationRequest) :
    RequestListItem :=
  { destination := registration.IP.destination
    careOfAddress := fa.careOfAddress
    requestedLifetime := registration.lifetime
    remainingLifetime := registration.lifetime
    identification := registration.identification
    rr := registration
    ttl := ttl }

def relayedDatagram (fa : MobileIPForeignAgent) (clock : Clock)
    (registration : RegistrationRequest) : Datagram RegistrationRequestPacket :=
  UDPIPfy (buildRegistrationRequestPacket clock registration.lifetime registration.home
    registration.homeAgent fa.careOfAddress registration.identification) fa.careOfAddress
    fa.sourcePort registration.homeAgent 434 16

theorem checkRequestValidity_out (fa : MobileIPForeignAgent) (clock : Clock)
    (registration : RegistrationRequest) :
    (fa.checkRequestValidity clock registration).2 = [] ∨
      ∃ d, (fa.checkRequestValidity clock registration).2 = [⟨0, .reply d⟩] := by
  let P : Bool × List Emission → Prop := fun r => r.2 = [] ∨ ∃ d, r.2 = [⟨0, .reply d⟩]
  have hreply : ∀ code lifetime, P (false, fa.sendReply clock registration code lifetime) :=
    fun _ _ => Or.inr ⟨_, rfl⟩
  refine iteInduction (motive := P) (fun _ => Or.inl rfl) fun _ => ?_
  repeat refine iteInduction (motive := P) (fun _ => hreply _ _) fun _ => ?_
  exact Or.inl rfl

theorem relayRequest_emits {fa fa' : MobileIPForeignAgent} {clock : Clock} {ttl : UInt32}
    {registration : RegistrationRequest} {out : List Emission}
    (h : fa.relayRequest clock ttl registration = (fa', out)) :
    (fa' = fa ∧ (out = [] ∨ ∃ d, out = [⟨0, .reply d⟩])) ∨
      (fa' = { fa with requests := fa.requests ++ [fa.pendingItem ttl registration] } ∧
        out = [⟨1, .request (fa.relayedDatagram clock registration)⟩]) := by
  unfold relayRequest at h
  split at h
  · next hcheck =>
    cases h
    have hout := fa.checkRequestValidity_out clock registration
    rw [hcheck] at hout
    exact Or.inl ⟨rfl, hout⟩
  · exact Or.inr ⟨(Prod.mk.inj h).1.symm, (Prod.mk.inj h).2.symm⟩

theorem relayRequest_cases {fa fa' : MobileIPForeignAgent} {clock : Clock} {ttl : UInt32}
    {registration : RegistrationRequest} {out : List Emission}
    (h : fa.relayRequest clock ttl registration = (fa', out)) :
    fa' = fa ∨ fa' = { fa with requests := fa.requests ++ [fa.pendingItem ttl registration] } :=
  (relayRequest_emits h).imp And.left And.left

theorem relayReply_cases {fa fa' : MobileIPForeignAgent} {clock : Clock} {reply : RegistrationReply}
    {out : List Emission} (h : fa.relayReply clock reply = (fa', out)) :
    (∃ requests, requests.Sublist fa.requests ∧ fa' = { fa with requests := requests } ∧
      (∀ request, ¬ fa.Answers reply request) ∧ out = []) ∨
    (∃ request requests, fa.Answers reply request ∧ requests.Sublist fa.requests ∧
      fa' = { fa with requests := requests, visitors := fa.updateVisitors reply request } ∧
      out = fa.sendReplyFromHA clock reply reply.home request.rr.UDP.sourcePort) := by
  unfold relayReply at h
  cases hr : RequestList.remove reply.identification fa.requests with
  | error e =>
    simp only [hr, Prod.mk.injEq] at h
    refine Or.inl ⟨fa.requests, List.Sublist.refl _, h.1.symm, ?_, h.2.symm⟩
    intro request hans
    obtain ⟨rest, hrest, -⟩ := hans
    rw [hr] at hrest
    cases hrest
  | ok res =>
    obtain ⟨request, rest⟩ := res
    have hsub : rest.Sublist fa.requests := by
      obtain ⟨pre, post, hl, rfl, -⟩ := RequestList.remove_ok hr
      rw [hl]
      exact (List.Sublist.refl pre).append (List.sublist_cons_self _ _)
    simp only [hr] at h
    split_ifs at h with hc
    · cases h
      refine Or.inl ⟨rest, hsub, rfl, ?_, rfl⟩
      intro request' hans
      obtain ⟨rest', hrest', hc'⟩ := hans
      rw [hr] at hrest'
      cases hrest'
      exact absurd (hc.symm.trans hc') (by decide)
    · cases h
      exact Or.inr ⟨request, rest, ⟨rest, hr, eq_true_of_ne_false hc⟩, hsub, rfl, rfl⟩

/-- The request passes the checks of the foreign agent, as far as they do not concern its
lifetime. -/
structure Passes (fa : MobileIPForeignAgent) (registration : RegistrationRequest) : Prop where
  port : registration.UDP.destinationPort = 434
  reserved : registration.r = false ∧ registration.x = false
  careOf : registration.careOf = fa.careOfAddress
  encapsulation : registration.M = false ∧ registration.G = false
  room : RequestList.size fa.requests < fa.maxPendingRegistrations
  options : registration.D = false ∧ registration.T = false

theorem relayedDatagram_request {fa : MobileIPForeignAgent} {registration : RegistrationRequest}
    (hl : registration.lifetime.toNat ≤ 65535) (hport : fa.sourcePort.toNat ≤ 65535)
    (hid : registration.identification ≠ 0) (clock : Clock) :
    (fa.relayedDatagram clock registration).request =
      plainRequest registration.lifetime registration.home registration.homeAgent fa.careOfAddress
        ⟨fa.sourcePort, 434⟩ ⟨fa.careOfAddress, registration.homeAgent⟩
        registration.identification :=
  request_UDPIPfy hl hport (by decide) hid _ _ _ _ _ _ _

theorem checkRequestValidity_of_passes {fa : MobileIPForeignAgent}
    {registration : RegistrationRequest} (h : fa.Passes registration) (clock : Clock) :
    fa.checkRequestValidity clock registration =
      if registration.lifetime > fa.maxAcceptedLifetime then
        (false, fa.sendReply clock registration 69 fa.maxAcceptedLifetime)
      else (true, []) := by
  obtain ⟨hp, ⟨hr, hx⟩, hc, ⟨hM, hG⟩, hroom, ⟨hD, hT⟩⟩ := h
  have hroom' : ¬ RequestList.size fa.requests ≥ fa.maxPendingRegistrations := by
    rw [UInt32.lt_iff_toNat_lt] at hroom
    rw [ge_iff_le, UInt32.le_iff_toNat_le]
    omega
  simp [checkRequestValidity, hp, hr, hx, hc, hM, hG, hroom', hD, hT]

theorem of_not_refused {c : Prop} [Decidable c] {out out' : List Emission}
    {r : Bool × List Emission} (h : (if c then (false, out) else r) = (true, out')) :
    ¬ c ∧ r = (true, out') := by
  by_cases hc : c
  · rw [if_pos hc] at h
    cases h
  · rw [if_neg hc] at h
    exact ⟨hc, h⟩

theorem passes_of_checkRequestValidity {fa : MobileIPForeignAgent} {clock : Clock}
    {registration : RegistrationRequest} {out : List Emission}
    (h : fa.checkRequestValidity clock registration = (true, out)) : fa.Passes registration := by
  unfold checkRequestValidity at h
  obtain ⟨hp, h⟩ := of_not_refused h
  obtain ⟨hr, h⟩ := of_not_refused h
  obtain ⟨hc, h⟩ := of_not_refused h
  obtain ⟨hM, h⟩ := of_not_refused h
  obtain ⟨hroom, h⟩ := of_not_refused h
  obtain ⟨-, h⟩ := of_not_refused h
  obtain ⟨hD, -⟩ := of_not_refused h
  simp only [not_or, Bool.not_eq_true] at hr hM hD
  refine ⟨not_not.1 hp, hr, not_not.1 hc, hM, ?_, hD⟩
  rw [ge_iff_le, UInt32.le_iff_toNat_le] at hroom
  rw [UInt32.lt_iff_toNat_lt]
  omega

theorem relayRequest_of_passes {fa : MobileIPForeignAgent} {registration : RegistrationRequest}
    (h : fa.Passes registration)
    (hl : registration.lifetime.toNat ≤ fa.maxAcceptedLifetime.toNat) (clock : Clock)
    (ttl : UInt32) : fa.relayRequest clock ttl registration =
      ({ fa with requests := fa.requests ++ [fa.pendingItem ttl registration] },
        [⟨1, .request (fa.relayedDatagram clock registration)⟩]) := by
  have hl' : ¬ registration.lifetime > fa.maxAcceptedLifetime := by
    rw [gt_iff_lt, UInt32.lt_iff_toNat_lt]
    omega
  simp only [relayRequest, checkRequestValidity_of_passes h, if_neg hl']
  rfl

theorem relayRequest_of_too_long {fa : MobileIPForeignAgent} {registration : RegistrationRequest}
    (h : fa.Passes registration)
    (hl : fa.maxAcceptedLifetime.toNat < registration.lifetime.toNat) (clock : Clock)
    (ttl : UInt32) : fa.relayRequest clock ttl registration =
      (fa, fa.sendReply clock registration 69 fa.maxAcceptedLifetime) := by
  have hl' : registration.lifetime > fa.maxAcceptedLifetime := by
    rw [gt_iff_lt, UInt32.lt_iff_toNat_lt]
    exact hl
  simp only [relayRequest, checkRequestValidity_of_passes h, if_pos hl']

theorem relayReply_of_pending {fa : MobileIPForeignAgent} {reply : RegistrationReply}
    {request : RequestListItem} {rest : RequestList}
    (hr : RequestList.remove reply.identification fa.requests = .ok (request, rest))
    (hc : fa.checkReplyValidity reply request = true) (clock : Clock) :
    fa.relayReply clock reply =
      ({ fa with requests := rest, visitors := fa.updateVisitors reply request },
        fa.sendReplyFromHA clock reply reply.home request.rr.UDP.sourcePort) := by
  have hc' : ¬ ({ fa with requests := rest }.checkReplyValidity reply request = false) := by
    rw [Bool.not_eq_false]
    exact hc
  simp only [relayReply, hr, if_neg hc']
  rfl

def passedOn (fa : MobileIPForeignAgent) (clock : Clock) (reply : RegistrationReply)
    (destinationPort : UInt32) : Datagram RegistrationReplyPacket :=
  UDPIPfy (buildRegistrationReplyPacket clock reply.lifetime reply.code.toUInt8 reply.home
    reply.homeAgent reply.identification) fa.privateAddress 434
    (if reply.home = .zero then .broadcast else reply.home) destinationPort 1

theorem sendReplyFromHA_eq (fa : MobileIPForeignAgent) (clock : Clock) (reply : RegistrationReply)
    (destinationPort : UInt32) : fa.sendReplyFromHA clock reply reply.home destinationPort =
      [⟨0, .reply (fa.passedOn clock reply destinationPort)⟩] := rfl

def refusal (fa : MobileIPForeignAgent) (clock : Clock) (registration : RegistrationRequest) :
    Datagram RegistrationReplyPacket :=
  UDPIPfy (buildRegistrationReplyPacket clock fa.maxAcceptedLifetime 69 registration.home
    registration.homeAgent registration.identification)
    (if registration.IP.source = .broadcast then fa.privateAddress else registration.IP.destination)
    434 (if registration.home = .zero then .broadcast else registration.IP.source)
    registration.UDP.sourcePort 1

theorem sendReply_refusal (fa : MobileIPForeignAgent) (clock : Clock)
    (registration : RegistrationRequest) :
    fa.sendReply clock registration 69 fa.maxAcceptedLifetime =
      [⟨0, .reply (fa.refusal clock registration)⟩] := rfl

theorem sourcePort_step {fa fa' : MobileIPForeignAgent} {e : FAEvent} {out : List Emission}
    (h : fa.step e = .ok (fa', out)) : fa'.sourcePort = fa.sourcePort := by
  cases e with
  | push clock ttl port p =>
    simp only [step, push] at h
    split_ifs at h
    · split at h
      · cases h; rfl
      · cases h; rfl
      · cases h
      · rcases relayRequest_cases (Except.ok.inj h) with rfl | rfl <;> rfl
    · split at h
      · cases h; rfl
      · cases h; rfl
      · cases h
      · rcases relayReply_cases (Except.ok.inj h) with ⟨_, -, rfl, -⟩ | ⟨_, _, -, -, rfl, -⟩ <;> rfl
    · cases h; rfl
  | runTimer clock => cases h; rfl
  | maxLifetime value => cases h; rfl
  | requestTimeout value => cases h; rfl
  | maxPendingRegistrations value => cases h; rfl

end MobileIPForeignAgent

end MobileIP
