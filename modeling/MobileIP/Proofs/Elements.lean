import MobileIP.Proofs.Arrival
import MobileIP.Proofs.Classifier
import MobileIP.Proofs.HomeRegistrations

/-! What the elements make of the packets that carry the messages of this protocol. A registration
message is handled by the agent or the node as the record that was sent, or it has no effect: its
header may have the checksum 0, and it may come from an address by which it is taken for a frame. -/

namespace MobileIP

/-- The address does not begin with the bytes that show an IP packet in an Ethernet header. -/
def IPAddress.Plain (a : IPAddress) : Prop := ¬ (a.a = 8 ∧ a.b = 0)

instance (a : IPAddress) : Decidable a.Plain := inferInstanceAs (Decidable (¬ _))

open MobileIPClassifier (typeByte getPacketType_udp)

namespace Datagram

variable {α : Type} (d : Datagram α) (bytes : α → List UInt8)

theorem getPacketType_packet : getPacketType (d.packet bytes) =
    if typeByte (d.packet bytes) = 1 then .registration
    else if typeByte (d.packet bytes) = 3 then .reply else .unkown :=
  getPacketType_udp (show (d.packet bytes).networkHeader = some 0 from rfl) rfl

theorem typeByte_plain (hs : d.source.Plain) :
    typeByte (d.packet bytes) = (bytes d.payload).getD 0 0 := by
  have hword : (d.packet bytes).u16 ((d.packet bytes).data + 12) =
      d.source.a.toNat + 256 * d.source.b.toNat := rfl
  have hether : htons 0x0800 = 8 := by decide
  have hplain : ¬ (d.packet bytes).u16 ((d.packet bytes).data + 12) = htons 0x0800 := by
    intro heq
    rw [hword, hether] at heq
    have ha := d.source.a.toNat_lt
    have ha8 : d.source.a.toNat = (8 : UInt8).toNat := by
      change _ = 8
      omega
    have hb0 : d.source.b.toNat = (0 : UInt8).toNat := by
      change _ = 0
      omega
    exact hs ⟨UInt8.toNat_inj.1 ha8, UInt8.toNat_inj.1 hb0⟩
  rw [typeByte, if_neg hplain, Nat.add_zero]
  exact d.packet_u8 bytes 0

theorem getPacketType_cases : getPacketType (d.packet bytes) = .registration ∨
    getPacketType (d.packet bytes) = .reply ∨ getPacketType (d.packet bytes) = .unkown := by
  rw [getPacketType_packet]
  split_ifs
  · exact Or.inl rfl
  · exact Or.inr (Or.inl rfl)
  · exact Or.inr (Or.inr rfl)

end Datagram

theorem request_type {d : Datagram RegistrationRequestPacket} (hs : d.source.Plain)
    (ht : d.payload.type = 1) :
    getPacketType (d.packet RegistrationRequestPacket.bytes) = .registration := by
  have hbyte : typeByte (d.packet RegistrationRequestPacket.bytes) = 1 :=
    (d.typeByte_plain _ hs).trans ht
  rw [d.getPacketType_packet, if_pos hbyte]

theorem request_whole (d : Datagram RegistrationRequestPacket) :
    (d.packet RegistrationRequestPacket.bytes).Whole :=
  d.packet_whole (by change 24 + 8 + 20 < 65536; decide)

theorem reply_whole (d : Datagram RegistrationReplyPacket) :
    (d.packet RegistrationReplyPacket.bytes).Whole :=
  d.packet_whole (by change 20 + 8 + 20 < 65536; decide)

theorem request_read (d : Datagram RegistrationRequestPacket) :
    (∃ e, (processRegistrationRequestPacket (d.packet RegistrationRequestPacket.bytes)).1 =
        .error e ∧ e.IsChecksum) ∨
      (processRegistrationRequestPacket (d.packet RegistrationRequestPacket.bytes)).1 =
        .ok d.request := by
  cases hr : (processRegistrationRequestPacket (d.packet RegistrationRequestPacket.bytes)).1 with
  | error e => exact Or.inl ⟨e, rfl, processRegistrationRequestPacket_error hr⟩
  | ok registration => exact Or.inr (congrArg _ ((Datagram.request_read_iff d registration).1 hr).2)

theorem reply_read (d : Datagram RegistrationReplyPacket) :
    (∃ e, (processRegistrationReplyPacket (d.packet RegistrationReplyPacket.bytes)).1 =
        .error e ∧ e.IsChecksum) ∨
      (processRegistrationReplyPacket (d.packet RegistrationReplyPacket.bytes)).1 =
        .ok d.reply := by
  cases hr : (processRegistrationReplyPacket (d.packet RegistrationReplyPacket.bytes)).1 with
  | error e => exact Or.inl ⟨e, rfl, processRegistrationReplyPacket_error hr⟩
  | ok reply => exact Or.inr (congrArg _ ((Datagram.reply_read_iff d reply).1 hr).2)

section Elements

variable {q : Packet}

theorem MobileIPHomeAgent.push_request (ha : MobileIPHomeAgent) (clock : Clock) (port : ℕ)
    {d : Datagram RegistrationRequestPacket}
    (h : (d.packet RegistrationRequestPacket.bytes).Moved q) :
    ha.push clock port q = .ok (ha, []) ∨
      ha.push clock port q = .ok (ha.processRegistration clock port d.request) := by
  rw [push, h.processRegistrationRequestPacket]
  split_ifs with htype
  · rcases request_read d with ⟨e, hread, hsum⟩ | hread
    · rw [hread]
      obtain ⟨_, rfl⟩ | ⟨_, rfl⟩ := hsum.cases
      · exact Or.inl rfl
      · exact Or.inl rfl
    · rw [hread]
      exact Or.inr rfl
  · exact Or.inl rfl

theorem MobileIPForeignAgent.push_request (fa : MobileIPForeignAgent) (clock : Clock) (ttl : UInt32)
    {d : Datagram RegistrationRequestPacket}
    (h : (d.packet RegistrationRequestPacket.bytes).Moved q) :
    fa.push clock ttl 0 q = .ok (fa, []) ∨
      fa.push clock ttl 0 q = .ok (fa.relayRequest clock ttl d.request) := by
  rw [push, h.processRegistrationRequestPacket]
  split_ifs with htype hport
  · rcases request_read d with ⟨e, hread, hsum⟩ | hread
    · rw [hread]
      obtain ⟨_, rfl⟩ | ⟨_, rfl⟩ := hsum.cases
      · exact Or.inl rfl
      · exact Or.inl rfl
    · rw [hread]
      exact Or.inr rfl
  · exact absurd hport.1 (by decide)
  · exact Or.inl rfl

theorem MobileIPForeignAgent.push_reply (fa : MobileIPForeignAgent) (clock : Clock) (ttl : UInt32)
    {d : Datagram RegistrationReplyPacket} (h : (d.packet RegistrationReplyPacket.bytes).Moved q) :
    fa.push clock ttl 1 q = .ok (fa, []) ∨
      fa.push clock ttl 1 q = .ok (fa.relayReply clock d.reply) := by
  rw [push, h.processRegistrationReplyPacket]
  rw [if_neg fun hport => absurd hport.1 (by decide)]
  split_ifs with htype
  · rcases reply_read d with ⟨e, hread, hsum⟩ | hread
    · rw [hread]
      obtain ⟨_, rfl⟩ | ⟨_, rfl⟩ := hsum.cases
      · exact Or.inl rfl
      · exact Or.inl rfl
    · rw [hread]
      exact Or.inr rfl
  · exact Or.inl rfl

/-- The node does not catch the exception about a checksum of 0. -/
theorem MobileIPNode.push_reply (mn : MobileIPNode) (ctx : SendContext)
    {d : Datagram RegistrationReplyPacket} (h : (d.packet RegistrationReplyPacket.bytes).Moved q) :
    (∃ e, mn.push ctx q = .error e) ∨ mn.push ctx q = .ok (mn, []) ∨
      mn.push ctx q = mn.receiveReply ctx d.reply := by
  rw [push, h.processRegistrationReplyPacket]
  split_ifs with htype
  · exact Or.inr (Or.inl rfl)
  · rcases reply_read d with ⟨e, hread, hsum⟩ | hread
    · rw [hread]
      obtain ⟨_, rfl⟩ | ⟨_, rfl⟩ := hsum.cases
      · exact Or.inl ⟨_, rfl⟩
      · exact Or.inr (Or.inl rfl)
    · rw [hread]
      exact Or.inr (Or.inr rfl)

end Elements

end MobileIP
