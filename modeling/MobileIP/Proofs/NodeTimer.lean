import MobileIP.Lib.Run
import MobileIP.Proofs.Lists
import MobileIP.Proofs.Messages
import MobileIP.Spec.Node

/-! Where the mobile node sends its requests, and what a tick of its timer does. -/

namespace MobileIP

def MNEvent.isReregister : MNEvent → Bool
  | .reregister .. => true
  | _ => false

namespace MobileIPNode

variable {mn : MobileIPNode} {A : IPAddress}

/-- All the memories a request is sent from name the agent `A`. -/
structure Aimed (mn : MobileIPNode) (A : IPAddress) : Prop where
  requests : ∀ it ∈ mn.requests, it.destination = A
  connection : mn.connection.agentAddress = A

structure SendsTo (A : IPAddress) (r : MobileIPNode × List Emission) : Prop where
  aimed : r.1.Aimed A
  out : ∀ e ∈ r.2, e.destination = A

theorem sendsTo_nil (h : mn.Aimed A) : SendsTo A (mn, []) := ⟨h, by simp⟩

/-- All that is pending and all that is sent is a request `Q` allows, for a destination and a
lifetime as it is on the wire. -/
structure Sends (Q : IPAddress → UInt16 → Prop) (r : MobileIPNode × List Emission) : Prop where
  requests : ∀ it ∈ r.1.requests, Q it.destination it.requestedLifetime.toUInt16
  out : ∀ e ∈ r.2, ∃ l, e.requestedLifetime = some l ∧ Q e.destination l

theorem Sends.sendsTo {r : MobileIPNode × List Emission} (h : Sends (fun d _ => d = A) r)
    (hc : r.1.connection.agentAddress = A) : SendsTo A r := by
  refine ⟨⟨h.requests, hc⟩, ?_⟩
  intro e he
  obtain ⟨-, -, hd⟩ := h.out e he
  exact hd

section Sends

variable {Q : IPAddress → UInt16 → Prop}

theorem sends_nil (h : ∀ it ∈ mn.requests, Q it.destination it.requestedLifetime.toUInt16) :
    Sends Q (mn, []) := ⟨h, by simp⟩

theorem sendRequest_sends
    (h : ∀ it ∈ mn.requests, Q it.destination it.requestedLifetime.toUInt16) (ctx : SendContext)
    (destination careOfAddress : IPAddress) (lifetime ttl : UInt32)
    (hQ : Q destination lifetime.toUInt16) :
    Sends Q (mn.sendRequest ctx destination careOfAddress lifetime ttl) := by
  refine ⟨?_, ?_⟩
  · intro it hit
    rcases List.mem_append.1 hit with hit | hit
    · exact h it hit
    · rw [List.mem_singleton.1 hit]
      exact hQ
  · intro e he
    rw [List.mem_singleton.1 he]
    exact ⟨_, rfl, hQ⟩

theorem resendRequests_sends {timedOut : List RequestListItem}
    (h : ∀ it ∈ mn.requests, Q it.destination it.requestedLifetime.toUInt16)
    (ht : ∀ it ∈ timedOut, Q it.destination it.requestedLifetime.toUInt16) (ctx : ℕ → SendContext) :
    Sends Q (mn.resendRequests ctx timedOut) := by
  induction timedOut generalizing mn ctx with
  | nil => exact sends_nil h
  | cons request timedOut ih =>
    rw [List.forall_mem_cons] at ht
    have hfirst := sendRequest_sends h (ctx 0) request.destination request.careOfAddress
      request.requestedLifetime request.ttl ht.1
    have hrest := ih hfirst.requests ht.2 fun i => ctx (i + 1)
    exact ⟨hrest.requests, List.forall_mem_append.2 ⟨hfirst.out, hrest.out⟩⟩

end Sends

def sentItem (ctx : SendContext) (FAAddress careOfAddress : IPAddress) (lifetime : UInt32) :
    RequestListItem :=
  { destination := FAAddress
    careOfAddress := careOfAddress
    requestedLifetime := lifetime
    identification := ctx.identification
    ttl := 1
    remainingLifetime := ctx.remainingLifetime
    rr := ctx.rr }

def sentDatagram (mn : MobileIPNode) (ctx : SendContext) (FAAddress careOfAddress : IPAddress)
    (lifetime : UInt32) : Datagram RegistrationRequestPacket :=
  UDPIPfy (buildRegistrationRequestPacket ctx.clock lifetime mn.homeAddress
    mn.homeAgentPublicAddress careOfAddress ctx.identification) mn.homeAddress mn.sourcePort
    FAAddress 434 1

theorem registerFA_eq (mn : MobileIPNode) (ctx : SendContext) (FAAddress careOfAddress : IPAddress)
    (lifetime : UInt32) : mn.registerFA ctx FAAddress careOfAddress lifetime =
      ({ mn with requests := mn.requests ++ [sentItem ctx FAAddress careOfAddress lifetime] },
        [⟨0, .request (mn.sentDatagram ctx FAAddress careOfAddress lifetime)⟩]) := rfl

theorem countDown_request {it it' : RequestListItem} (h : RequestList.countDown it = some it') :
    it'.destination = it.destination ∧ it'.careOfAddress = it.careOfAddress ∧
      it'.requestedLifetime = it.requestedLifetime := by
  unfold RequestList.countDown at h
  split_ifs at h
  · cases h; exact ⟨rfl, rfl, rfl⟩
  · cases h; exact ⟨rfl, rfl, rfl⟩

def resent (mn : MobileIPNode) (ctx : ℕ → SendContext) : MobileIPNode × List Emission :=
  { mn with requests := (RequestList.removeTimedOutRequests mn.requestTimeout
    (RequestList.decreaseLifetime mn.requests)).2 }.resendRequests ctx
      (RequestList.removeTimedOutRequests mn.requestTimeout
        (RequestList.decreaseLifetime mn.requests)).1

theorem runTimer_eq (mn : MobileIPNode) (ctx : ℕ → SendContext) :
    ∃ ctx', mn.runTimer ctx = (((mn.resent ctx).1.renewConnection ctx').1,
      (mn.resent ctx).2 ++ ((mn.resent ctx).1.renewConnection ctx').2) := ⟨_, rfl⟩

theorem resendRequests_connection (mn : MobileIPNode) (ctx : ℕ → SendContext)
    (timedOut : List RequestListItem) :
    (mn.resendRequests ctx timedOut).1.connection = mn.connection := by
  induction timedOut generalizing mn ctx with
  | nil => rfl
  | cons request timedOut ih => exact ih _ _

theorem resent_connection (mn : MobileIPNode) (ctx : ℕ → SendContext) :
    (mn.resent ctx).1.connection = mn.connection := resendRequests_connection _ _ _

theorem resent_sends {Q : IPAddress → UInt16 → Prop}
    (h : ∀ it ∈ mn.requests, Q it.destination it.requestedLifetime.toUInt16)
    (ctx : ℕ → SendContext) : Sends Q (mn.resent ctx) := by
  have hwait : ∀ it ∈ (mn.requests.filterMap RequestList.countDown).map RequestList.wait,
      Q it.destination it.requestedLifetime.toUInt16 := by
    intro it hit
    obtain ⟨c, hc, rfl⟩ := List.mem_map.1 hit
    obtain ⟨it₀, hit₀, hc⟩ := List.mem_filterMap.1 hc
    obtain ⟨hd, -, hl⟩ := countDown_request hc
    have hQ := h it₀ hit₀
    rw [← hd, ← hl] at hQ
    exact hQ
  rw [resent, RequestList.decreaseLifetime_eq, RequestList.removeTimedOutRequests_eq]
  exact resendRequests_sends (fun it hit => hwait it (List.mem_filter.1 hit).1)
    (fun it hit => hwait it (List.mem_filter.1 hit).1) ctx

theorem has_resendRequests (mn : MobileIPNode) (ctx : ℕ → SendContext) (d c : IPAddress)
    (timedOut : List RequestListItem) :
    RequestList.has d c (mn.resendRequests ctx timedOut).1.requests = true ↔
      ∃ it ∈ mn.requests ++ timedOut, it.destination = d ∧ it.careOfAddress = c := by
  induction timedOut generalizing mn ctx with
  | nil => simp [resendRequests, RequestList.has_iff]
  | cons request timedOut ih =>
    simp only [resendRequests, ih, sendRequest, RequestList.add, List.mem_append, List.mem_cons,
      List.not_mem_nil, or_false, or_and_right, exists_or, exists_eq_left, or_assoc]

theorem has_resent (mn : MobileIPNode) (ctx : ℕ → SendContext) (d c : IPAddress) :
    RequestList.has d c (mn.resent ctx).1.requests =
      RequestList.has d c (RequestList.decreaseLifetime mn.requests) := by
  rw [Bool.eq_iff_iff, resent, has_resendRequests, RequestList.has_iff,
    RequestList.removeTimedOutRequests_eq]
  constructor
  · intro h
    obtain ⟨it, hit, hd, hc⟩ := h
    have hwait : it ∈ (RequestList.decreaseLifetime mn.requests).map RequestList.wait := by
      rcases List.mem_append.1 hit with hit | hit
      · exact (List.mem_filter.1 hit).1
      · exact (List.mem_filter.1 hit).1
    obtain ⟨it₀, hit₀, rfl⟩ := List.mem_map.1 hwait
    exact ⟨it₀, hit₀, hd, hc⟩
  · intro h
    obtain ⟨it, hit, hd, hc⟩ := h
    refine ⟨RequestList.wait it, ?_, hd, hc⟩
    have hwait := List.mem_map_of_mem (f := RequestList.wait) hit
    by_cases hle : (RequestList.wait it).waitingTime ≤ mn.requestTimeout
    · exact List.mem_append_left _ (List.mem_filter.2 ⟨hwait, by simp [hle]⟩)
    · exact List.mem_append_right _ (List.mem_filter.2 ⟨hwait, by simp [hle]⟩)

def ticks (tr : Machine.Trace MobileIPNode MNEvent Emission) : ℕ :=
  tr.countP fun x => x.event matches .runTimer _

/-- What makes `run_timer` ask for the lifetime of the connection again. -/
structure Renews (connection : AgentConnection) (requests : RequestList) : Prop where
  finite : connection.lifetime ≠ 65535
  alive : connection.remainingLifetime > 0
  half : 2 * (connection.remainingLifetime - 1).toNat ≤ connection.lifetime.toNat
  away : connection.isHome = false
  idle : RequestList.has connection.agentAddress connection.careOfAddress requests = false

def ticked (connection : AgentConnection) : AgentConnection :=
  { connection with remainingLifetime := connection.remainingLifetime - 1 }

theorem renews_resent {ctx : ℕ → SendContext} :
    Renews (mn.resent ctx).1.connection (mn.resent ctx).1.requests ↔
      Renews mn.connection (RequestList.decreaseLifetime mn.requests) := by
  rw [resent_connection]
  refine ⟨fun h => { h with idle := ?_ }, fun h => { h with idle := ?_ }⟩
  · rw [← has_resent]
    exact h.idle
  · rw [has_resent]
    exact h.idle

theorem renewConnection_renews (h : Renews mn.connection mn.requests) (ctx : SendContext) :
    mn.renewConnection ctx = { mn with connection := ticked mn.connection }.registerFA ctx
      mn.connection.agentAddress mn.connection.careOfAddress mn.connection.lifetime := by
  rw [renewConnection, if_pos ⟨h.finite, h.alive⟩]
  dsimp only
  rw [if_pos ⟨h.half, h.away, h.idle⟩]
  rfl

theorem renewConnection_idle (h : ¬ Renews mn.connection mn.requests) (ctx : SendContext) :
    mn.renewConnection ctx = ({ mn with
      connection := if mn.connection.lifetime ≠ 65535 ∧ mn.connection.remainingLifetime > 0 then
        ticked mn.connection else mn.connection }, []) := by
  unfold renewConnection
  dsimp only
  split_ifs with hlife hhalf
  · exact absurd ⟨hlife.1, hlife.2, hhalf.1, hhalf.2.1, hhalf.2.2⟩ h
  · rfl
  · rfl

theorem renewConnection_sends {Q : IPAddress → UInt16 → Prop}
    (h : ∀ it ∈ mn.requests, Q it.destination it.requestedLifetime.toUInt16)
    (hQ : Renews mn.connection mn.requests →
      Q mn.connection.agentAddress mn.connection.lifetime.toUInt16) (ctx : SendContext) :
    Sends Q (mn.renewConnection ctx) := by
  by_cases hr : Renews mn.connection mn.requests
  · rw [renewConnection_renews hr]
    refine sendRequest_sends ?_ ctx _ _ _ _ (hQ hr)
    exact h
  · rw [renewConnection_idle hr]
    exact sends_nil h

theorem renewConnection_connection (mn : MobileIPNode) (ctx : SendContext) :
    (mn.renewConnection ctx).1.connection =
      if mn.connection.lifetime ≠ 65535 ∧ mn.connection.remainingLifetime > 0 then
        ticked mn.connection else mn.connection := by
  by_cases hr : Renews mn.connection mn.requests
  · rw [renewConnection_renews hr, if_pos ⟨hr.finite, hr.alive⟩]
    rfl
  · rw [renewConnection_idle hr]

theorem runTimer_sends {Q : IPAddress → UInt16 → Prop}
    (h : ∀ it ∈ mn.requests, Q it.destination it.requestedLifetime.toUInt16)
    (hQ : Renews mn.connection (RequestList.decreaseLifetime mn.requests) →
      Q mn.connection.agentAddress mn.connection.lifetime.toUInt16) (ctx : ℕ → SendContext) :
    Sends Q (mn.runTimer ctx) := by
  obtain ⟨ctx', heq⟩ := mn.runTimer_eq ctx
  have hresent := resent_sends h ctx
  have hrenewed := renewConnection_sends hresent.requests
    (fun hr => by
      rw [resent_connection]
      exact hQ (renews_resent.1 hr)) ctx'
  rw [heq]
  exact ⟨hrenewed.requests, List.forall_mem_append.2 ⟨hresent.out, hrenewed.out⟩⟩

theorem runTimer_connection (mn : MobileIPNode) (ctx : ℕ → SendContext) :
    (mn.runTimer ctx).1.connection =
      if mn.connection.lifetime ≠ 65535 ∧ mn.connection.remainingLifetime > 0 then
        ticked mn.connection else mn.connection := by
  obtain ⟨ctx', heq⟩ := mn.runTimer_eq ctx
  rw [heq, renewConnection_connection, resent_connection]

theorem runTimer_agentAddress (mn : MobileIPNode) (ctx : ℕ → SendContext) :
    (mn.runTimer ctx).1.connection.agentAddress = mn.connection.agentAddress := by
  rw [runTimer_connection]
  split_ifs <;> rfl

theorem runTimer_sendsTo (h : mn.Aimed A) (ctx : ℕ → SendContext) : SendsTo A (mn.runTimer ctx) :=
  (runTimer_sends h.requests (fun _ => h.connection) ctx).sendsTo
    ((runTimer_agentAddress _ _).trans h.connection)

end MobileIPNode

end MobileIP
