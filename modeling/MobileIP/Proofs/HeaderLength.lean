import MobileIP.Proofs.Advertisements
import MobileIP.Proofs.Exceptions

/-! Registration messages in packets whose IP header has options. -/

namespace MobileIP

namespace Packet

variable {p : Packet} {i j : ℕ}

theorem ntohs_u16 (p : Packet) (i : ℕ) :
    ntohs (p.u16 i) = 256 * (p.u8 i).toNat + (p.u8 (i + 1)).toNat :=
  ntohs_bytes (UInt8.toNat_lt _) (UInt8.toNat_lt _)

theorem ofNat_ntohs_inj : UInt32.ofNat (ntohs (p.u16 i)) = UInt32.ofNat (ntohs (p.u16 j)) ↔
    p.u8 i = p.u8 j ∧ p.u8 (i + 1) = p.u8 (j + 1) := by
  have := (p.u8 (i + 1)).toNat_lt
  have := (p.u8 (j + 1)).toNat_lt
  rw [← UInt32.toNat_inj, toNat_ofNat_ntohs, toNat_ofNat_ntohs, ntohs_u16, ntohs_u16,
    ← UInt8.toNat_inj, ← UInt8.toNat_inj]
  omega

theorem ofNat_ntohl_inj : UInt32.ofNat (ntohl p i) = UInt32.ofNat (ntohl p j) ↔
    (p.u8 i = p.u8 j ∧ p.u8 (i + 1) = p.u8 (j + 1)) ∧
      p.u8 (i + 2) = p.u8 (j + 2) ∧ p.u8 (i + 3) = p.u8 (j + 3) := by
  have := (p.u8 i).toNat_lt
  have := (p.u8 (i + 1)).toNat_lt
  have := (p.u8 (i + 2)).toNat_lt
  have := (p.u8 (i + 3)).toNat_lt
  have := (p.u8 j).toNat_lt
  have := (p.u8 (j + 1)).toNat_lt
  have := (p.u8 (j + 2)).toNat_lt
  have := (p.u8 (j + 3)).toNat_lt
  rw [← UInt32.toNat_inj, UInt32.toNat_ofNat', UInt32.toNat_ofNat', ntohl, ntohl, ntohs_u16,
    ntohs_u16, ntohs_u16, ntohs_u16]
  simp only [← UInt8.toNat_inj, add_assoc, Nat.reduceAdd]
  omega

theorem inAddr_inj : p.inAddr i = p.inAddr j ↔ p.u8 i = p.u8 j ∧ p.u8 (i + 1) = p.u8 (j + 1) ∧
    p.u8 (i + 2) = p.u8 (j + 2) ∧ p.u8 (i + 3) = p.u8 (j + 3) := by
  rw [inAddr, inAddr, IPAddress.mk.injEq]

end Packet

theorem bit_ext {b b' : UInt8} (h : ∀ i < 8, bit b i = bit b' i) : b = b' := by
  refine UInt8.toNat_inj.1 (Nat.eq_of_testBit_eq fun i => ?_)
  by_cases hi : i < 8
  · exact h i hi
  · have hpow : 2 ^ 8 ≤ 2 ^ i := Nat.pow_le_pow_right (by decide) (not_lt.1 hi)
    rw [Nat.testBit_lt_two_pow (b.toNat_lt.trans_le hpow),
      Nat.testBit_lt_two_pow (b'.toNat_lt.trans_le hpow)]

/-- The bytes of the datagram that show in a request: the ports, the flags, the lifetime, the three
addresses and the low half of the identification. -/
def requestPlaces : List ℕ :=
  [0, 1, 2, 3, 9, 10, 11, 12, 13, 14, 15, 16, 17, 18, 19, 20, 21, 22, 23, 28, 29, 30, 31]

def replyPlaces : List ℕ :=
  [0, 1, 2, 3, 9, 10, 11, 12, 13, 14, 15, 16, 17, 18, 19, 24, 25, 26, 27]

section Places

variable {p : Packet} {i j : ℕ}

theorem requestAt_eq_iff (ip : IPHeader) : requestAt p i ip = requestAt p j ip ↔
    ∀ k ∈ requestPlaces, p.u8 (i + k) = p.u8 (j + k) := by
  simp only [requestAt, requestPlaces, RegistrationRequest.mk.injEq, UDPHeader.mk.injEq,
    Packet.ofNat_ntohs_inj, Packet.ofNat_ntohl_inj, Packet.inAddr_inj, List.forall_mem_cons,
    List.not_mem_nil, false_imp_iff, implies_true, add_assoc, Nat.reduceAdd, add_zero, true_and,
    and_true]
  constructor
  · intro h
    obtain ⟨h7, h6, h5, h4, h3, h2, h1, h0, hlifetime, hhome, hagent, hcareOf, hports, hid⟩ := h
    have hflags : p.u8 (i + 9) = p.u8 (j + 9) := by
      refine bit_ext fun k hk => ?_
      interval_cases k <;> assumption
    simp only [hflags, hlifetime, hhome, hagent, hcareOf, hports, hid, and_self]
  · intro h
    simp only [h, and_self]

theorem replyAt_eq_iff (ip : IPHeader) : replyAt p i ip = replyAt p j ip ↔
    ∀ k ∈ replyPlaces, p.u8 (i + k) = p.u8 (j + k) := by
  have hcode : ∀ b b' : UInt8, b.toUInt32 = b'.toUInt32 ↔ b = b' := by
    intro b b'
    rw [← UInt32.toNat_inj, ← UInt8.toNat_inj, UInt8.toNat_toUInt32, UInt8.toNat_toUInt32]
  simp only [replyAt, replyPlaces, RegistrationReply.mk.injEq, UDPHeader.mk.injEq, hcode,
    Packet.ofNat_ntohs_inj, Packet.ofNat_ntohl_inj, Packet.inAddr_inj, List.forall_mem_cons,
    List.not_mem_nil, false_imp_iff, implies_true, add_assoc, Nat.reduceAdd, add_zero, true_and,
    and_true]
  constructor
  · intro h
    simp only [h, and_self]
  · intro h
    simp only [h, and_self]

end Places

section Readers

variable {p : Packet}

def headerLength (p : Packet) : ℕ := 4 * ((p.u8 p.data).toNat % 16)

theorem processUDPHeader_eq {ip : ℕ} {udp : UDPHeader} (hn : p.networkHeader = some ip)
    (hproto : p.u8 (ip + 9) = 17) (h : processUDPHeader p = .ok udp) :
    udp = ⟨UInt32.ofNat (ntohs (p.u16 (ip + 20))), UInt32.ofNat (ntohs (p.u16 (ip + 20 + 2)))⟩ := by
  simp only [processUDPHeader, hn, hproto, ne_eq, not_true_eq_false, if_false] at h
  split_ifs at h
  · exact (Except.ok.inj h).symm
  · exact (Except.ok.inj h).symm

theorem processRegistrationRequestPacket_eq {registration : RegistrationRequest}
    (hn : p.networkHeader = some p.data) (hproto : p.u8 (p.data + 9) = 17)
    (h : (processRegistrationRequestPacket p).1 = .ok registration) :
    registration = requestAt p (p.data + 20) registration.IP := by
  obtain ⟨e, he, -⟩ | ⟨registration', hread, hudp, hfields⟩ := processRegistrationRequestPacket_cases p
  · cases h.symm.trans he
  · cases h.symm.trans hread
    rw [processUDPHeader_eq hn hproto hudp] at hfields
    exact hfields

theorem processRegistrationReplyPacket_eq {reply : RegistrationReply}
    (hn : p.networkHeader = some p.data) (hproto : p.u8 (p.data + 9) = 17)
    (h : (processRegistrationReplyPacket p).1 = .ok reply) :
    reply = replyAt p (p.data + 20) reply.IP := by
  obtain ⟨e, he, -⟩ | ⟨reply', hread, hudp, hfields⟩ := processRegistrationReplyPacket_cases p
  · cases h.symm.trans he
  · cases h.symm.trans hread
    rw [processUDPHeader_eq hn hproto hudp] at hfields
    exact hfields

/-- The bytes at the places of a datagram behind a header of twenty bytes are those at the same
places of the datagram behind the whole header. -/
def Repeats (places : List ℕ) (p : Packet) : Prop :=
  ∀ k ∈ places, p.u8 (p.data + 20 + k) = p.u8 (p.data + headerLength p + k)

theorem or_repeats_iff (places : List ℕ) :
    headerLength p = 20 ∨ Repeats places p ↔ Repeats places p := by
  refine or_iff_right_of_imp fun h => ?_
  unfold Repeats
  rw [h]
  exact fun _ _ => rfl

/-- What is read from a UDP packet that `CheckIPHeader` has accepted are the ports and the message
behind its IP header, exactly if the header has no options, or the bytes that are read repeat those
that should have been read. -/
theorem message_behind_header_iff (h : CheckIPHeader.Accepted p p.data)
    (hproto : p.u8 (p.data + 9) = 17) :
    (∀ registration, (processRegistrationRequestPacket p).1 = .ok registration →
      (registration = requestAt p (p.data + headerLength p) registration.IP ↔
        headerLength p = 20 ∨ Repeats requestPlaces p)) ∧
      ∀ reply, (processRegistrationReplyPacket p).1 = .ok reply →
        (reply = replyAt p (p.data + headerLength p) reply.IP ↔
          headerLength p = 20 ∨ Repeats replyPlaces p) := by
  constructor
  · intro registration hread
    rw [or_repeats_iff, Repeats, ← requestAt_eq_iff registration.IP,
      ← processRegistrationRequestPacket_eq h.network hproto hread]
  · intro reply hread
    rw [or_repeats_iff, Repeats, ← replyAt_eq_iff reply.IP,
      ← processRegistrationReplyPacket_eq h.network hproto hread]

section Examples

open Definitions

/-- A request behind a header with an empty list of options, from the port that is as large as the
length of the datagram. -/
def requestWithOptions : Packet :=
  let request := (requestFrom 100 7).payload.bytes
  let header := (ipHeaderBytes 0 56 1 17 0 mobileNodeAddress foreignAgentPrivateAddress).set 0 0x46
  let header := setWord header 10 (clickInCksum header)
  let udp := udpHeaderBytes 32 434 32
  let csum := clickInCksum (udp 0 ++ request)
  let sum := clickInCksumPseudohdrRaw csum mobileNodeAddress foreignAgentPrivateAddress 17 32
  { buffer := header ++ [0, 0, 0, 0] ++ udp sum ++ request
    data := 0
    networkHeader := some 0
    transportHeader := 24 }

theorem message_behind_header_plain :
    (requestFrom 100 7).request =
      requestAt ((requestFrom 100 7).packet RegistrationRequestPacket.bytes) 20
        (requestFrom 100 7).request.IP := by
  have hread : (processRegistrationRequestPacket
      ((requestFrom 100 7).packet RegistrationRequestPacket.bytes)).1 =
        .ok (requestFrom 100 7).request := by decide +kernel
  exact ((message_behind_header_iff (by decide +kernel) (by decide +kernel)).1 _ hread).2
    (Or.inl (by decide +kernel))

/-- The request behind options is accepted, and read with the ports 0 and 0. -/
theorem options_shift_message :
    ¬ ∀ p : Packet, CheckIPHeader.Accepted p p.data → p.u8 (p.data + 9) = 17 →
      ∀ registration, (processRegistrationRequestPacket p).1 = .ok registration →
        registration = requestAt p (p.data + headerLength p) registration.IP := by
  intro hall
  have hread : ∃ registration, (processRegistrationRequestPacket requestWithOptions).1 =
      .ok registration ∧ registration.UDP = ⟨0, 0⟩ := ⟨_, rfl, by decide +kernel⟩
  obtain ⟨registration, hread, hports⟩ := hread
  have hfields := hall requestWithOptions (by decide +kernel) (by decide +kernel) registration hread
  have hudp := hports.symm.trans (congrArg RegistrationRequest.UDP hfields)
  change _ = (requestAt requestWithOptions
    (requestWithOptions.data + headerLength requestWithOptions) {}).UDP at hudp
  exact absurd hudp (by decide +kernel)

end Examples

end Readers

end MobileIP
