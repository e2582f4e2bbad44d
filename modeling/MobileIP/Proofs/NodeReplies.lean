import MobileIP.Proofs.Advertisements
import MobileIP.Proofs.Agreement
import MobileIP.Proofs.Exceptions

/-! The node and the replies to its requests: the identification that it waits for, and what it does
with a reply when it waits for none. -/

namespace MobileIP

theorem eq_replicate_of_append_singleton {α : Type} {x : α} {l : List α} (h : l ++ [x] = x :: l) :
    l = List.replicate l.length x := by
  induction l with
  | nil => rfl
  | cons y l ih =>
    obtain ⟨rfl, hrest⟩ := List.cons.inj h
    rw [List.length_cons, List.replicate_succ, ← ih hrest]

/-- The last request is the one that is taken out exactly if no other has its identification, copies
of it right before it apart. -/
theorem RequestList.remove_last_iff {l : RequestList} {it : RequestListItem} :
    remove it.identification (l ++ [it]) = .ok (it, l) ↔
      ∃ front n, l = front ++ List.replicate n it ∧
        ∀ x ∈ front, x.identification ≠ it.identification := by
  constructor
  · intro h
    obtain ⟨pre, post, hl, hrest, -, hpre⟩ := remove_ok h
    subst hrest
    rw [List.append_assoc] at hl
    refine ⟨pre, post.length, ?_, hpre⟩
    rw [← eq_replicate_of_append_singleton (List.append_cancel_left hl)]
  · intro h
    obtain ⟨front, n, rfl, hfront⟩ := h
    have hcons : List.replicate n it ++ [it] = it :: List.replicate n it := by
      rw [← List.replicate_succ', List.replicate_succ]
    rw [List.append_assoc, hcons]
    exact remove_append_cons rfl hfront _

namespace MobileIPNode

variable {mn mn' : MobileIPNode} {ctx : SendContext} {destination careOfAddress : IPAddress}
  {lifetime ttl : UInt32} {d : Datagram RegistrationRequestPacket} {item : RequestListItem}

structure Sent (mn : MobileIPNode) (ctx : SendContext) (destination careOfAddress : IPAddress)
    (lifetime ttl : UInt32) (d : Datagram RegistrationRequestPacket) (item : RequestListItem) :
    Prop where
  emitted : (mn.sendRequest ctx destination careOfAddress lifetime ttl).2 = [⟨0, .request d⟩]
  pending : (mn.sendRequest ctx destination careOfAddress lifetime ttl).1.requests =
    mn.requests ++ [item]

theorem Sent.spec (h : mn.Sent ctx destination careOfAddress lifetime ttl d item) :
    d.source = mn.homeAddress ∧ d.destination = destination ∧ d.ttl = ttl.toUInt8 ∧
      d.request.identification = (if ctx.identification = 0 then ctx.clock.steady
        else ctx.identification) ∧ item.identification = ctx.identification := by
  obtain ⟨-, hmessage⟩ := Emission.mk.inj (List.singleton_inj.1 h.emitted)
  obtain rfl := RegistrationMessage.request.inj hmessage
  obtain rfl := List.singleton_inj.1 (List.append_cancel_left h.pending)
  exact ⟨rfl, rfl, rfl, rfl, rfl⟩

/-- The wire has the identification that the node waits for, and a reply with the identification of
the wire that finds the request as the last one pending, in `mn'`, is accepted and takes out just
that request. -/
def AnsweredByWire (mn' : MobileIPNode) (d : Datagram RegistrationRequestPacket)
    (item it : RequestListItem) (others : RequestList) : Prop :=
  ∃ registration, (processRegistrationRequestPacket
      (d.packet RegistrationRequestPacket.bytes)).1 = .ok registration ∧
    item.identification = registration.identification ∧
    ∀ reply : RegistrationReply, reply.identification = registration.identification →
      reply.UDP.destinationPort = mn'.sourcePort → mn'.checkReplyValidity reply = .ok true ∧
        RequestList.remove reply.identification mn'.requests = .ok (it, others)

/-- The node is answered by the wire exactly if the builder does not take the identification for
none, the checksum of the header is not 0, and the request is the only one pending with its
identification, copies of it right before it apart. -/
theorem answered_by_wire_iff (h : mn.Sent ctx destination careOfAddress lifetime ttl d item)
    {it : RequestListItem} {others : RequestList} (hlast : mn'.requests = others ++ [it])
    (hid : it.identification = item.identification) :
    mn'.AnsweredByWire d item it others ↔
      (ctx.identification ≠ 0 ∨ ctx.clock.steady = 0) ∧
      headerSum 52 ttl.toUInt8 17 mn.homeAddress destination ≠ 0 ∧
      ∃ front n, others = front ++ List.replicate n it ∧
        ∀ x ∈ front, x.identification ≠ it.identification := by
  obtain ⟨hsource, hdest, httl, hwire, hitem⟩ := h.spec
  rw [← RequestList.remove_last_iff, ← httl, ← hsource, ← hdest]
  constructor
  · intro hans
    obtain ⟨registration, hread, hsame, hreply⟩ := hans
    obtain ⟨hsum, rfl⟩ := (Datagram.request_read_iff _ _).1 hread
    refine ⟨?_, hsum, ?_⟩
    · by_cases h0 : ctx.identification = 0
      · rw [hwire, if_pos h0, hitem, h0] at hsame
        exact Or.inr hsame.symm
      · exact Or.inl h0
    · have hremove := (hreply ⟨0, 0, .zero, .zero, ⟨0, mn'.sourcePort⟩, {}, _⟩ rfl rfl).2
      rw [hlast] at hremove
      rw [hid, hsame]
      exact hremove
  · intro hcond
    obtain ⟨h0, hsum, hremove⟩ := hcond
    have hsame : item.identification = d.request.identification := by
      rw [hwire, hitem]
      split_ifs with hzero
      · rw [hzero, h0.resolve_left (not_not.2 hzero)]
      · rfl
    refine ⟨_, (Datagram.request_read_iff _ _).2 ⟨hsum, rfl⟩, hsame, fun reply hreply hport => ?_⟩
    have heq : reply.identification = it.identification := by rw [hreply, ← hsame, hid]
    rw [hlast, heq]
    refine ⟨?_, hremove⟩
    simp [checkReplyValidity, hlast, RequestList.getLastRequest_append, heq, hport]

section Examples

open Definitions

/-- The context of a call in which `sendRequest` reads the first value from the clock, and the
builder the second. -/
def readings (identification steady : UInt32) : SendContext :=
  { sendAt identification with clock := ⟨0, steady⟩ }

theorem mobileNode_sent (ctx : SendContext) :
    mobileNode.Sent ctx foreignAgentPrivateAddress foreignAgentPublicAddress 100 1
      (mobileNode.sentDatagram ctx foreignAgentPrivateAddress foreignAgentPublicAddress 100)
      (sentItem ctx foreignAgentPrivateAddress foreignAgentPublicAddress 100) := ⟨rfl, rfl⟩

theorem answered_by_wire_first :
    (mobileNode.sendRequest (sendAt 7) foreignAgentPrivateAddress foreignAgentPublicAddress 100
      1).1.AnsweredByWire
      (mobileNode.sentDatagram (sendAt 7) foreignAgentPrivateAddress foreignAgentPublicAddress 100)
      (sentItem (sendAt 7) foreignAgentPrivateAddress foreignAgentPublicAddress 100)
      (sentItem (sendAt 7) foreignAgentPrivateAddress foreignAgentPublicAddress 100) [] :=
  (answered_by_wire_iff (mobileNode_sent (sendAt 7)) rfl rfl).2
    ⟨Or.inl (by decide), by decide, [], 0, rfl, by simp⟩

/-- When the clock shows 0 at the call, the builder reads it again and puts another identification
on the wire. -/
theorem zero_reading_not_answered :
    ¬ ∀ (mn mn' : MobileIPNode) ctx destination careOfAddress lifetime ttl d item it others,
      mn.Sent ctx destination careOfAddress lifetime ttl d item → mn'.requests = others ++ [it] →
      it.identification = item.identification → mn'.AnsweredByWire d item it others := by
  intro hall
  obtain ⟨registration, hread, hsame, -⟩ := hall mobileNode
    (mobileNode.sendRequest (readings 0 17) foreignAgentPrivateAddress foreignAgentPublicAddress
      100 1).1 _ _ _ _ _ _ _ _ [] (mobileNode_sent (readings 0 17)) rfl rfl
  obtain ⟨-, rfl⟩ := (Datagram.request_read_iff _ _).1 hread
  exact absurd hsame (by decide)

end Examples

/-- Nothing undefined is evaluated on the packet, and a reply to none of the pending requests is
without effect. -/
structure HandlesReply (mn : MobileIPNode) (ctx : SendContext) (p : Packet) : Prop where
  defined : ∀ identifier, mn.push ctx p ≠ .error (.undefinedBehaviour identifier)
  unknown : ∀ reply, (processRegistrationReplyPacket p).1 = .ok reply →
    (∀ it ∈ mn.requests, it.identification ≠ reply.identification) → mn.push ctx p = .ok (mn, [])

theorem checkReplyValidity_cases (mn : MobileIPNode) (reply : RegistrationReply) :
    (mn.requests = [] ∧
      mn.checkReplyValidity reply = .error (.undefinedBehaviour "requests.back()")) ∨
    ∃ others it, mn.requests = others ++ [it] ∧ mn.checkReplyValidity reply =
      .ok (decide (reply.identification = it.identification ∧
        reply.UDP.destinationPort = mn.sourcePort)) := by
  rcases List.eq_nil_or_concat mn.requests with hnil | ⟨others, it, hlast⟩
  · refine Or.inl ⟨hnil, ?_⟩
    rw [checkReplyValidity, hnil]
    rfl
  · rw [List.concat_eq_append] at hlast
    refine Or.inr ⟨others, it, hlast, ?_⟩
    rw [checkReplyValidity, hlast, RequestList.getLastRequest_append]
    by_cases hid : reply.identification = it.identification
    · by_cases hport : reply.UDP.destinationPort = mn.sourcePort
      · simp [hid, hport]
      · simp [hid, hport]
    · simp [hid]

/-- A reply is handled exactly if it cannot be read or some request is pending: the check reads the
last of them before it has looked whether there is one. -/
theorem handles_reply_iff (mn : MobileIPNode) (ctx : SendContext) {p : Packet}
    (hp : getPacketType p = .reply) :
    mn.HandlesReply ctx p ↔
      ((∃ reply, (processRegistrationReplyPacket p).1 = .ok reply) → mn.requests ≠ []) := by
  cases hr : (processRegistrationReplyPacket p).1 with
  | error e =>
    refine iff_of_true ⟨?_, by simp [hr]⟩ (by simp)
    intro identifier hpush
    obtain ⟨s, rfl⟩ | ⟨s, rfl⟩ := (processRegistrationReplyPacket_error hr).cases
    · simp [push, hp, hr] at hpush
    · simp [push, hp, hr] at hpush
  | ok reply =>
    have hpush : mn.push ctx p = mn.receiveReply ctx reply := by
      simp [push, hp, hr]
    rcases mn.checkReplyValidity_cases reply with ⟨hnil, hcheck⟩ | ⟨others, it, hlast, hcheck⟩
    · refine iff_of_false ?_ fun hne => hne ⟨reply, rfl⟩ hnil
      intro hh
      refine hh.defined "requests.back()" ?_
      rw [hpush, receiveReply, hcheck]
    · refine iff_of_true ⟨?_, ?_⟩ fun _ => by simp [hlast]
      · intro identifier
        rw [hpush, receiveReply, hcheck]
        split <;> simp_all
      · intro reply' hr' hnone
        obtain rfl := Except.ok.inj (hr.symm.trans hr')
        have hne : ¬ (reply.identification = it.identification ∧
            reply.UDP.destinationPort = mn.sourcePort) :=
          fun hsame => hnone it (by simp [hlast]) hsame.1.symm
        rw [hpush, receiveReply, hcheck, decide_eq_false hne]

section Examples

open Definitions

def replyToNode (identification : UInt32) : Datagram RegistrationReplyPacket :=
  UDPIPfy (buildRegistrationReplyPacket ⟨0, 0⟩ 100 0 mobileNodeAddress
    Definitions.homeAgentPublicAddress identification) foreignAgentPrivateAddress 434
    mobileNodeAddress 5241 1

theorem handles_reply_pending :
    (mobileNode.registerFA (sendAt 7) foreignAgentPrivateAddress foreignAgentPublicAddress
      100).1.HandlesReply (sendAt 8) ((replyToNode 9).packet RegistrationReplyPacket.bytes) :=
  (handles_reply_iff _ _ (by decide +kernel)).2 fun _ => by decide

/-- The very first packet that a node sees may be a reply. -/
theorem unsolicited_reply_undefined :
    ¬ ∀ mn : MobileIPNode, mn.Reachable → ∀ ctx p, getPacketType p = .reply →
      mn.HandlesReply ctx p := by
  intro hall
  have htype : getPacketType ((replyToNode 9).packet RegistrationReplyPacket.bytes) = .reply := by
    decide +kernel
  have hread := (Datagram.reply_read_iff (replyToNode 9) _).2 ⟨by decide, rfl⟩
  have hh := hall mobileNode ⟨mobileNode, [], rfl, rfl, rfl, .nil⟩ (sendAt 8) _ htype
  refine hh.defined "requests.back()" ?_
  simp only [push, htype, hread, ne_eq, not_true_eq_false, if_false]
  rfl

end Examples

end MobileIPNode

end MobileIP
