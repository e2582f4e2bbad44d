import MobileIP.Proofs.Advertisements
import MobileIP.Proofs.HomeAgentReplies
import MobileIP.Proofs.PendingRequests

/-! The address that the agents reply from. Four routines choose it, and each tests another address
for the broadcast address than the one it then takes. -/

namespace MobileIP

def FromBroadcast (out : List Emission) : Prop :=
  ∃ output d, (⟨output, .reply d⟩ : Emission) ∈ out ∧ d.source = .broadcast

theorem not_fromBroadcast_nil : ¬ FromBroadcast [] := by
  simp [FromBroadcast]

theorem fromBroadcast_singleton (output : ℕ) (d : Datagram RegistrationReplyPacket) :
    FromBroadcast [⟨output, .reply d⟩] ↔ d.source = .broadcast := by
  constructor
  · intro h
    obtain ⟨output', d', hmem, hsource⟩ := h
    obtain ⟨-, hd⟩ := Emission.mk.inj (List.mem_singleton.1 hmem)
    rw [← RegistrationMessage.reply.inj hd]
    exact hsource
  · exact fun h => ⟨output, d, List.mem_singleton_self _, h⟩

theorem fromBroadcast_append (out out' : List Emission) :
    FromBroadcast (out ++ out') ↔ FromBroadcast out ∨ FromBroadcast out' := by
  simp only [FromBroadcast, List.mem_append, or_and_right, exists_or]

namespace MobileIPHomeAgent

variable {ha ha' : MobileIPHomeAgent} {registration : RegistrationRequest}

def Flagged (registration : RegistrationRequest) : Prop :=
  registration.r ∨ registration.x ∨ registration.D ∨ registration.M ∨ registration.G ∨
    registration.T

/-- The request was sent to the broadcast address, and the routine that answers it does not put
another address in its place: `sendReply` does so on port 0 only, `checkForUnkwownHomeAgent` only if
the request also came from the broadcast address. -/
structure BroadcastBack (port : ℕ) (registration : RegistrationRequest) : Prop where
  destinationPort : registration.UDP.destinationPort = 434
  broadcast : registration.IP.destination = .broadcast
  kept : (Flagged registration ∧ port ≠ 0) ∨
    (¬ Flagged registration ∧ registration.IP.source ≠ .broadcast)

theorem sendReply_fromBroadcast (hprivate : ha.privateAddress ≠ .broadcast) (clock : Clock)
    (registration : RegistrationRequest) (code : UInt8) (port : ℕ) (lifetime : UInt32) :
    FromBroadcast (ha.sendReply clock registration code port lifetime) ↔
      registration.IP.destination = .broadcast ∧ port ≠ 0 := by
  rw [sendReply, fromBroadcast_singleton]
  by_cases hb : registration.IP.destination = .broadcast
  · by_cases hp : port = 0
    · simp [UDPIPfy, hb, hp, hprivate]
    · simp [UDPIPfy, hb, hp]
  · simp [UDPIPfy, hb]

theorem checkForUnkwownHomeAgent_fromBroadcast (hprivate : ha.privateAddress ≠ .broadcast)
    (hpublic : ha.publicAddress ≠ .broadcast) (clock : Clock) (registration : RegistrationRequest)
    (port : ℕ) : FromBroadcast (ha.checkForUnkwownHomeAgent clock registration port).2 ↔
      registration.IP.destination = .broadcast ∧ registration.IP.source ≠ .broadcast := by
  have hzero : IPAddress.zero ≠ .broadcast := by decide
  unfold checkForUnkwownHomeAgent
  dsimp only
  by_cases hknown : registration.homeAgent = ha.publicAddress ∧
      (registration.IP.destination = ha.privateAddress ∨
        registration.IP.destination = ha.publicAddress)
  · rw [if_pos hknown]
    refine iff_of_false not_fromBroadcast_nil fun h => ?_
    rcases hknown.2 with hd | hd
    · exact hprivate (hd.symm.trans h.1)
    · exact hpublic (hd.symm.trans h.1)
  · rw [if_neg hknown, fromBroadcast_singleton]
    by_cases hs : registration.IP.source = .broadcast
    · by_cases hp : port = 0
      · simp [UDPIPfy, hs, hp, hprivate]
      · simp [UDPIPfy, hs, hp, hzero]
    · simp [UDPIPfy, hs]

theorem processRegistration_flagged (hport : registration.UDP.destinationPort = 434)
    (hflags : Flagged registration) (ha : MobileIPHomeAgent) (clock : Clock) (port : ℕ) :
    ∃ code, (ha.processRegistration clock port registration).2 =
      ha.sendReply clock registration code port registration.lifetime := by
  unfold processRegistration checkRegistrationValidity
  rw [if_neg (not_not.2 hport)]
  by_cases hr : registration.r ∨ registration.x
  · rw [if_pos hr]
    exact ⟨134, rfl⟩
  · have ho : registration.D ∨ registration.M ∨ registration.G ∨ registration.T := by
      rcases hflags with h | h | h
      · exact absurd (Or.inl h) hr
      · exact absurd (Or.inr h) hr
      · exact h
    rw [if_neg hr, if_pos ho]
    exact ⟨128, rfl⟩

theorem processRegistration_unflagged (hport : registration.UDP.destinationPort = 434)
    (hflags : ¬ Flagged registration) (hadm : ¬ ha.Admits registration) (clock : Clock)
    (port : ℕ) : (ha.processRegistration clock port registration).2 =
      (ha.checkForUnkwownHomeAgent clock registration port).2 := by
  simp only [Flagged, not_or, Bool.not_eq_true] at hflags
  obtain ⟨hr, hx, hD, hM, hG, hT⟩ := hflags
  have hvalid : ha.checkRegistrationValidity clock registration port = (true, []) := by
    simp [checkRegistrationValidity, hport, hr, hx, hD, hM, hG, hT]
  have hunknown := checkForUnkwownHomeAgent_unknown
    (fun hknown => hadm ⟨hport, ⟨hr, hx⟩, ⟨hD, hM, hG, hT⟩, hknown.1, hknown.2⟩) clock port
  rw [processRegistration_of_unknown hvalid hunknown]

theorem processRegistration_fromBroadcast (hprivate : ha.privateAddress ≠ .broadcast)
    (hpublic : ha.publicAddress ≠ .broadcast) (clock : Clock) (port : ℕ)
    (registration : RegistrationRequest) :
    FromBroadcast (ha.processRegistration clock port registration).2 ↔
      BroadcastBack port registration := by
  by_cases hport : registration.UDP.destinationPort = 434
  · by_cases hflags : Flagged registration
    · obtain ⟨code, heq⟩ := processRegistration_flagged hport hflags ha clock port
      rw [heq, sendReply_fromBroadcast hprivate]
      refine ⟨fun h => ⟨hport, h.1, Or.inl ⟨hflags, h.2⟩⟩, fun h => ⟨h.broadcast, ?_⟩⟩
      exact (h.kept.resolve_right fun hk => hk.1 hflags).2
    · have hback : BroadcastBack port registration ↔ registration.IP.destination = .broadcast ∧
          registration.IP.source ≠ .broadcast := by
        refine ⟨fun h => ⟨h.broadcast, ?_⟩, fun h => ⟨hport, h.1, Or.inr ⟨hflags, h.2⟩⟩⟩
        exact (h.kept.resolve_left fun hk => hflags hk.1).2
      rw [hback]
      by_cases hadm : ha.Admits registration
      · rw [processRegistration_of_admits hadm]
        refine iff_of_false (fun h => ?_) fun h => ?_
        · have hb := ((sendReply_fromBroadcast hprivate _ _ _ _ _).1 h).1
          rcases hadm.destination with hd | hd
          · exact hprivate (hd.symm.trans hb)
          · exact hpublic (hd.symm.trans hb)
        · rcases hadm.destination with hd | hd
          · exact hprivate (hd.symm.trans h.1)
          · exact hpublic (hd.symm.trans h.1)
      · rw [processRegistration_unflagged hport hflags hadm]
        exact checkForUnkwownHomeAgent_fromBroadcast hprivate hpublic clock registration port
  · have hsilent : (ha.processRegistration clock port registration).2 = [] := by
      rw [processRegistration, checkRegistrationValidity, if_pos hport]
    rw [hsilent]
    exact iff_of_false not_fromBroadcast_nil fun h => hport h.destinationPort

theorem step_fromBroadcast {e : HAEvent} {out : List Emission}
    (hprivate : ha.privateAddress ≠ .broadcast) (hpublic : ha.publicAddress ≠ .broadcast)
    (hs : ha.step e = .ok (ha', out)) :
    FromBroadcast out ↔ ∃ clock port registration, Receives e clock port registration ∧
      BroadcastBack port registration := by
  rcases step_cases ha e with ⟨clock, port, registration, hrec, heq⟩ | ⟨rfl, heq⟩ |
    ⟨_, hnone, -, heq, -⟩
  · rw [heq, Except.ok.injEq] at hs
    have hout : out = (ha.processRegistration clock port registration).2 := by rw [hs]
    rw [hout, processRegistration_fromBroadcast hprivate hpublic]
    refine ⟨fun h => ⟨clock, port, registration, hrec, h⟩, fun h => ?_⟩
    obtain ⟨clock', port', registration', hrec', hback⟩ := h
    obtain rfl := hrec.unique hrec'
    obtain ⟨_, rfl, -⟩ := hrec
    obtain ⟨_, hev, -⟩ := hrec'
    obtain ⟨-, rfl, -⟩ := HAEvent.push.inj hev
    exact hback
  · rw [heq] at hs
    cases hs
    exact iff_of_false not_fromBroadcast_nil (by simp [Receives])
  · rw [heq] at hs
    cases hs
    refine iff_of_false not_fromBroadcast_nil fun h => ?_
    obtain ⟨clock, port, registration, hrec, -⟩ := h
    exact hnone clock port registration hrec

end MobileIPHomeAgent

namespace MobileIPForeignAgent

variable {fa fa' : MobileIPForeignAgent} {registration : RegistrationRequest}

/-- `sendReply` would answer the request from the address it was sent to, which is the broadcast
address: the test is made on the other address. -/
def BroadcastBack (registration : RegistrationRequest) : Prop :=
  registration.IP.destination = .broadcast ∧ registration.IP.source ≠ .broadcast

theorem sendReply_fromBroadcast (hprivate : fa.privateAddress ≠ .broadcast) (clock : Clock)
    (registration : RegistrationRequest) (code : UInt8) (lifetime : UInt32) :
    FromBroadcast (fa.sendReply clock registration code lifetime) ↔
      BroadcastBack registration := by
  rw [sendReply, fromBroadcast_singleton, BroadcastBack]
  by_cases hs : registration.IP.source = .broadcast
  · simp [UDPIPfy, hs, hprivate]
  · simp [UDPIPfy, hs]

def Refuses (fa : MobileIPForeignAgent) (registration : RegistrationRequest) : Prop :=
  registration.UDP.destinationPort = 434 ∧
    ¬ (fa.Passes registration ∧ registration.lifetime.toNat ≤ fa.maxAcceptedLifetime.toNat)

theorem relayRequest_of_refuses (h : fa.Refuses registration) (clock : Clock) (ttl : UInt32) :
    ∃ code lifetime, fa.relayRequest clock ttl registration =
      (fa, fa.sendReply clock registration code lifetime) := by
  obtain ⟨hport, hnot⟩ := h
  cases hcheck : fa.checkRequestValidity clock registration with
  | mk valid out =>
    rw [relayRequest, hcheck]
    cases valid with
    | true =>
      have hpasses := passes_of_checkRequestValidity hcheck
      rw [checkRequestValidity_of_passes hpasses] at hcheck
      split_ifs at hcheck with hlong
      · cases hcheck
      · rw [gt_iff_lt, UInt32.lt_iff_toNat_lt, not_lt] at hlong
        exact absurd ⟨hpasses, hlong⟩ hnot
    | false =>
      rw [checkRequestValidity, if_neg (not_not.2 hport)] at hcheck
      -- the six refusals, and the branch that passes
      split_ifs at hcheck
      all_goals
        obtain ⟨hvalid, rfl⟩ := Prod.mk.inj hcheck
        first
          | exact ⟨_, _, rfl⟩
          | cases hvalid

theorem relayRequest_fromBroadcast (hprivate : fa.privateAddress ≠ .broadcast) (clock : Clock)
    (ttl : UInt32) (registration : RegistrationRequest) :
    FromBroadcast (fa.relayRequest clock ttl registration).2 ↔
      fa.Refuses registration ∧ BroadcastBack registration := by
  by_cases href : fa.Refuses registration
  · obtain ⟨code, lifetime, heq⟩ := relayRequest_of_refuses href clock ttl
    rw [heq, sendReply_fromBroadcast hprivate, and_iff_right href]
  refine iff_of_false ?_ fun h => href h.1
  by_cases hport : registration.UDP.destinationPort = 434
  · obtain ⟨hpasses, hlifetime⟩ := not_not.1 fun h => href ⟨hport, h⟩
    rw [relayRequest_of_passes hpasses hlifetime]
    simp [FromBroadcast]
  · have hdrop : fa.checkRequestValidity clock registration = (false, []) := by
      rw [checkRequestValidity, if_pos hport]
    rw [relayRequest, hdrop]
    exact not_fromBroadcast_nil

theorem sendRequestTimedOutReply_fromBroadcast (hprivate : fa.privateAddress ≠ .broadcast)
    (clock : ℕ → Clock) (requests : List RequestListItem) :
    FromBroadcast (fa.sendRequestTimedOutReply clock requests) ↔
      ∃ it ∈ requests, BroadcastBack it.rr := by
  induction requests generalizing clock with
  | nil => simp [sendRequestTimedOutReply, not_fromBroadcast_nil]
  | cons request requests ih =>
    rw [sendRequestTimedOutReply, fromBroadcast_append, sendReply_fromBroadcast hprivate, ih,
      List.exists_mem_cons_iff]

/-- The tick finds that the request has waited too long, and does not drop it before. -/
def Due (fa : MobileIPForeignAgent) (it : RequestListItem) : Prop :=
  (it.requestedLifetime = 65535 ∨ it.requestedLifetime = 0 ∨ it.remainingLifetime ≠ 0) ∧
    fa.requestTimeout < it.waitingTime + 1

theorem due_iff {it : RequestListItem} : fa.Due it ↔ ∃ c, RequestList.countDown it = some c ∧
    c.rr = it.rr ∧ ¬ (RequestList.wait c).waitingTime ≤ fa.requestTimeout := by
  unfold Due
  rw [UInt32.lt_iff_toNat_lt]
  constructor
  · intro h
    obtain ⟨hkept, hlong⟩ := h
    cases hc : RequestList.countDown it with
    | none =>
      obtain ⟨hinf, h0, hrem⟩ := RequestList.countDown_eq_none_iff.1 hc
      rcases hkept with h | h | h
      · exact absurd h hinf
      · exact absurd h h0
      · exact absurd hrem h
    | some c =>
      have hsame : c.rr = it.rr ∧ c.waitingTime = it.waitingTime := by
        rcases RequestList.countDown_some hc with ⟨-, rfl⟩ | ⟨-, -, -, rfl⟩ <;> exact ⟨rfl, rfl⟩
      refine ⟨c, rfl, hsame.1, ?_⟩
      rw [RequestList.wait, hsame.2, UInt32.le_iff_toNat_le, not_le]
      exact hlong
  · intro h
    obtain ⟨c, hc, -, hlong⟩ := h
    rcases RequestList.countDown_some hc with ⟨hinf, rfl⟩ | ⟨-, -, hrem, rfl⟩
    · rw [RequestList.wait, UInt32.le_iff_toNat_le, not_le] at hlong
      exact ⟨by rcases hinf with h | h <;> simp [h], hlong⟩
    · rw [RequestList.wait, UInt32.le_iff_toNat_le, not_le] at hlong
      exact ⟨Or.inr (Or.inr hrem), hlong⟩

theorem runTimer_fromBroadcast (hprivate : fa.privateAddress ≠ .broadcast) (clock : ℕ → Clock) :
    FromBroadcast (fa.runTimer clock).2 ↔
      ∃ it ∈ fa.requests, fa.Due it ∧ BroadcastBack it.rr := by
  simp only [runTimer, RequestList.decreaseLifetime_eq, RequestList.removeTimedOutRequests_eq,
    sendRequestTimedOutReply_fromBroadcast hprivate, List.mem_filter, List.mem_map,
    List.mem_filterMap, due_iff, Bool.not_eq_true', decide_eq_false_iff_not]
  constructor
  · intro h
    obtain ⟨_, ⟨⟨c, ⟨it, hit, hc⟩, rfl⟩, hlong⟩, hback⟩ := h
    have hrr := (countDown_identification hc).2.1
    refine ⟨it, hit, ⟨c, hc, hrr, hlong⟩, ?_⟩
    rw [← hrr]
    exact hback
  · intro h
    obtain ⟨it, hit, ⟨c, hc, hrr, hlong⟩, hback⟩ := h
    rw [← hrr] at hback
    exact ⟨RequestList.wait c, ⟨⟨c, ⟨it, hit, hc⟩, rfl⟩, hlong⟩, hback⟩

def BroadcastBackAt (fa : MobileIPForeignAgent) (e : FAEvent) : Prop :=
  (∃ clock ttl registration, ReceivesRequest e clock ttl registration ∧ fa.Refuses registration ∧
    BroadcastBack registration) ∨
  (∃ clock, e = .runTimer clock) ∧ ∃ it ∈ fa.requests, fa.Due it ∧ BroadcastBack it.rr

theorem step_fromBroadcast {e : FAEvent} {out : List Emission}
    (hprivate : fa.privateAddress ≠ .broadcast) (hs : fa.step e = .ok (fa', out)) :
    FromBroadcast out ↔ fa.BroadcastBackAt e := by
  by_cases hreq : ∃ clock ttl registration, ReceivesRequest e clock ttl registration
  · obtain ⟨clock, ttl, registration, hrec⟩ := hreq
    have hnotick : ¬ ∃ clock, e = .runTimer clock := by
      obtain ⟨p, rfl, -⟩ := hrec
      simp
    rw [hrec.step fa, Except.ok.injEq, Prod.mk.injEq] at hs
    rw [← hs.2, relayRequest_fromBroadcast hprivate, BroadcastBackAt,
      or_iff_left fun h => hnotick h.1]
    refine ⟨fun h => ⟨clock, ttl, registration, hrec, h⟩, fun h => ?_⟩
    obtain ⟨clock', ttl', registration', hrec', h⟩ := h
    rwa [hrec.unique hrec']
  have hnoreq : fa.BroadcastBackAt e ↔ (∃ clock, e = .runTimer clock) ∧
      ∃ it ∈ fa.requests, fa.Due it ∧ BroadcastBack it.rr := by
    refine or_iff_right fun h => hreq ?_
    obtain ⟨clock, ttl, registration, hrec, -⟩ := h
    exact ⟨clock, ttl, registration, hrec⟩
  rw [hnoreq]
  rcases step_cases hs with ⟨clock, ttl, registration, hrec, -⟩ | ⟨clock, reply, hrec, hrel⟩ |
    ⟨clock, rfl, htick⟩ | ⟨hnotick, -, -, -, rfl⟩
  · exact absurd ⟨clock, ttl, registration, hrec⟩ hreq
  · refine iff_of_false ?_ fun h => ?_
    · rcases relayReply_cases hrel with ⟨_, -, -, -, rfl⟩ | ⟨request, _, -, -, -, rfl⟩
      · exact not_fromBroadcast_nil
      · rw [sendReplyFromHA_eq, fromBroadcast_singleton]
        exact hprivate
    · obtain ⟨⟨_, rfl⟩, -⟩ := h
      obtain ⟨_, _, heq, -⟩ := hrec
      cases heq
  · have hout : out = (fa.runTimer clock).2 := by rw [htick]
    rw [hout, runTimer_fromBroadcast hprivate, and_iff_right ⟨clock, rfl⟩]
  · refine iff_of_false not_fromBroadcast_nil fun h => ?_
    obtain ⟨⟨clock, rfl⟩, -⟩ := h
    exact hnotick clock rfl

end MobileIPForeignAgent

/-- Neither agent answers from the broadcast address exactly if no request that was sent there
reaches a routine that keeps the address: at the home agent, one with an unsupported flag on port 1
or one without from a node's own address; at the foreign agent, one from a node's own address that
is refused or times out. -/
theorem never_from_broadcast_iff {ha ha' : MobileIPHomeAgent} {fa fa' : MobileIPForeignAgent}
    {e : HAEvent} {e' : FAEvent} {out out' : List Emission}
    (hprivate : ha.privateAddress ≠ .broadcast) (hpublic : ha.publicAddress ≠ .broadcast)
    (hprivate' : fa.privateAddress ≠ .broadcast) (hs : ha.step e = .ok (ha', out))
    (hs' : fa.step e' = .ok (fa', out')) :
    (¬ FromBroadcast out ↔ ∀ clock port registration,
      MobileIPHomeAgent.Receives e clock port registration →
        ¬ MobileIPHomeAgent.BroadcastBack port registration) ∧
    (¬ FromBroadcast out' ↔ ¬ fa.BroadcastBackAt e') := by
  rw [MobileIPHomeAgent.step_fromBroadcast hprivate hpublic hs,
    MobileIPForeignAgent.step_fromBroadcast hprivate' hs']
  simp only [not_exists, not_and, and_true]

section Examples

open Definitions

/-- A request of the node to an agent whose address it does not know, as `registerLL` sends it. -/
def linkLayerRequest (careOf : IPAddress) : Datagram RegistrationRequestPacket :=
  UDPIPfy (buildRegistrationRequestPacket ⟨0, 0⟩ 1800 mobileNodeAddress homeAgentPublicAddress careOf
    7) mobileNodeAddress 5241 .broadcast 434 1

theorem linkLayerRequest_read (careOf : IPAddress) :
    (processRegistrationRequestPacket ((linkLayerRequest careOf).packet
      RegistrationRequestPacket.bytes)).1 = .ok (linkLayerRequest careOf).request := by
  have hsum : headerSum 52 1 17 mobileNodeAddress .broadcast ≠ 0 := by decide
  exact (Datagram.request_read_iff _ _).2 ⟨hsum, rfl⟩

theorem linkLayerRequest_receives : MobileIPHomeAgent.Receives (.push ⟨0, 0⟩ 0
    ((linkLayerRequest .zero).packet RegistrationRequestPacket.bytes)) ⟨0, 0⟩ 0
    (linkLayerRequest .zero).request :=
  ⟨_, rfl, by decide +kernel, linkLayerRequest_read _⟩

theorem linkLayerRequest_receivesRequest :
    MobileIPForeignAgent.ReceivesRequest (requestArrives (linkLayerRequest .zero)) ⟨0, 0⟩ 0
      (linkLayerRequest .zero).request :=
  ⟨_, rfl, by decide +kernel, linkLayerRequest_read _⟩

theorem never_from_broadcast_first :
    ¬ FromBroadcast (homeAgent.processRegistration ⟨0, 0⟩ 1
      (relayedRequest foreignAgentPublicAddress 100 7).request).2 := by
  have hread : (processRegistrationRequestPacket ((relayedRequest foreignAgentPublicAddress 100
      7).packet RegistrationRequestPacket.bytes)).1 = .ok _ :=
    (Datagram.request_read_iff _ _).2 ⟨by decide, rfl⟩
  have hrec : MobileIPHomeAgent.Receives (relayedArrives (relayedRequest foreignAgentPublicAddress
      100 7)) ⟨0, 0⟩ 1 _ := ⟨_, rfl, by decide +kernel, hread⟩
  refine (never_from_broadcast_iff (by decide) (by decide) (by decide)
    (hrec.step homeAgent) (foreignAgent.step_runTimer fun _ => ⟨0, 0⟩)).1.2 ?_
  intro clock port registration hrec' hback
  obtain rfl := hrec.unique hrec'
  exact absurd hback.broadcast (by decide)

/-- Both agents answer a request of the link-layer protocol from the broadcast address. -/
theorem answered_from_broadcast :
    (¬ ∀ (ha : MobileIPHomeAgent) e ha' out, ha.privateAddress ≠ .broadcast →
      ha.publicAddress ≠ .broadcast → ha.step e = .ok (ha', out) → ¬ FromBroadcast out) ∧
    ¬ ∀ (fa : MobileIPForeignAgent) e fa' out, fa.privateAddress ≠ .broadcast →
      fa.step e = .ok (fa', out) → ¬ FromBroadcast out := by
  refine ⟨fun hall => ?_, fun hall => ?_⟩
  · exact hall homeAgent _ _ _ (by decide) (by decide) (linkLayerRequest_receives.step homeAgent)
      ⟨0, _, List.mem_singleton_self _, rfl⟩
  · exact hall foreignAgent _ _ _ (by decide) (linkLayerRequest_receivesRequest.step foreignAgent)
      ⟨0, _, List.mem_singleton_self _, rfl⟩

end Examples

end MobileIP
