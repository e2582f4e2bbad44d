import MobileIP.Proofs.Headers

/-! The registration messages that the builders write, the readers read, and what type a packet is
taken for. -/

namespace MobileIP

theorem length_udpHeaderBytes (sourcePort destinationPort : UInt16) (len sum : ℕ) :
    (udpHeaderBytes sourcePort destinationPort len sum).length = 8 := rfl

/-- The complement of a sum makes it a multiple of 65535, also when the carries of a part of it are
added in first. -/
theorem foldCarries_complement {a b : ℕ} (ha : a + 65535 < 4294967296) (hb : b + 65535 < 4294967296)
    (hpos : b ≠ 0) :
    foldCarries (foldCarries (a + (65535 - foldCarries (foldCarries a + b))) + b) = 65535 := by
  have hle := foldCarries_le a
  have hmod := foldCarries_mod (show a < 4294967296 by omega)
  have hle₁ := foldCarries_le (foldCarries a + b)
  have hmod₁ := foldCarries_mod (show foldCarries a + b < 4294967296 by omega)
  generalize foldCarries (foldCarries a + b) = c at hle₁ hmod₁ ⊢
  have hle₂ := foldCarries_le (a + (65535 - c))
  have hmod₂ := foldCarries_mod (show a + (65535 - c) < 4294967296 by omega)
  generalize foldCarries (a + (65535 - c)) = d at hle₂ hmod₂ ⊢
  have hle₃ := foldCarries_le (d + b)
  have hmod₃ := foldCarries_mod (show d + b < 4294967296 by omega)
  have hzero := (foldCarries_eq_zero_iff (show d + b < 4294967296 by omega)).not.2 (by omega)
  omega

theorem clickInCksumPseudohdrRaw_verifies {l : List UInt8} (hl : 8 ≤ l.length)
    (hlong : l.length ≤ 65536) (src dst : IPAddress) (len : ℕ) :
    clickInCksumPseudohdrRaw (clickInCksum (setWord l 6
      (clickInCksumPseudohdrRaw (clickInCksum (setWord l 6 0)) src dst 17 len))) src dst 17 len
        = 0 := by
  obtain ⟨words, hwords⟩ : ∃ words, words = wordSum [src.a, src.b, src.c, src.d] +
    wordSum [dst.a, dst.b, dst.c, dst.d] + htons len + htons 17 := ⟨_, rfl⟩
  have hraw : ∀ l', clickInCksumPseudohdrRaw (clickInCksum l') src dst 17 len =
      65535 - foldCarries (foldCarries (wordSum l') + words) := by
    intro l'
    have hle := foldCarries_le (wordSum l')
    simp only [clickInCksumPseudohdrRaw, clickInCksum, Nat.sub_sub_self hle, hwords, add_assoc]
  have hbound : words + 65535 < 4294967296 := by
    have hs := wordSum_le [src.a, src.b, src.c, src.d]
    have hd := wordSum_le [dst.a, dst.b, dst.c, dst.d]
    have hn : htons len < 65536 := ntohs_lt len
    have h17 : htons 17 = 4352 := by decide
    simp only [List.length_cons, List.length_nil] at hs hd
    omega
  have hpos : words ≠ 0 := by
    have h17 : htons 17 = 4352 := by decide
    omega
  have hlt : wordSum (setWord l 6 0) + 65535 < 4294967296 := by
    have := wordSum_le (setWord l 6 0)
    rw [length_setWord] at this
    omega
  rw [hraw, hraw, wordSum_setWord rfl (by omega) (by omega), foldCarries_complement hlt hbound hpos]

namespace Datagram

section Packet

variable {α : Type} (bytes : α → List UInt8) (d : Datagram α)

def datagram : List UInt8 :=
  udpHeaderBytes d.sourcePort d.destinationPort ((bytes d.payload).length + 8)
    (clickInCksumPseudohdrRaw (clickInCksum (udpHeaderBytes d.sourcePort d.destinationPort
      ((bytes d.payload).length + 8) 0 ++ bytes d.payload)) d.source d.destination 17
      ((bytes d.payload).length + 8)) ++ bytes d.payload

theorem packet_headed : (d.packet bytes).Headed [] (d.datagram bytes)
    ((bytes d.payload).length + 8 + 20) d.ttl 17 d.source d.destination :=
  ⟨by simp only [packet, datagram, headerSum, List.nil_append, List.append_assoc], rfl⟩

theorem packet_buffer : (d.packet bytes).buffer =
    ipHeaderBytes 0 ((bytes d.payload).length + 8 + 20) d.ttl 17
      (headerSum ((bytes d.payload).length + 8 + 20) d.ttl 17 d.source d.destination) d.source
      d.destination ++ d.datagram bytes := (d.packet_headed bytes).buffer

theorem packet_checksum : (d.packet bytes).u16 10 =
    headerSum ((bytes d.payload).length + 8 + 20) d.ttl 17 d.source d.destination :=
  (d.packet_headed bytes).checksum

theorem length_datagram : (d.datagram bytes).length = (bytes d.payload).length + 8 := by
  rw [datagram, List.length_append, length_udpHeaderBytes, add_comm]

theorem packet_message : ∃ front, (d.packet bytes).buffer = front ++ bytes d.payload ∧
    front.length = (d.packet bytes).data + 28 :=
  ⟨_, by rw [packet_buffer, datagram, ← List.append_assoc], rfl⟩

theorem packet_u8 (i : ℕ) :
    (d.packet bytes).u8 ((d.packet bytes).data + 28 + i) = (bytes d.payload).getD i 0 := by
  obtain ⟨front, hbuffer, hfront⟩ := d.packet_message bytes
  rw [← hfront, Packet.u8_append hbuffer]

theorem packet_u16 (i : ℕ) :
    (d.packet bytes).u16 ((d.packet bytes).data + 28 + i) = word (bytes d.payload) i := by
  obtain ⟨front, hbuffer, hfront⟩ := d.packet_message bytes
  rw [← hfront, Packet.u16_append hbuffer]

theorem clickInCksumPseudohdr_packet (csum len : ℕ) :
    clickInCksumPseudohdr csum (d.packet bytes) 0 len =
      clickInCksumPseudohdrRaw csum d.source d.destination 17 len := by
  have hversion : (d.packet bytes).u8 0 = 0x45 := rfl
  have hhl : ((d.packet bytes).u8 0).toNat % 16 = 5 := by
    rw [hversion]
    decide
  rw [clickInCksumPseudohdr, if_pos hhl]
  rfl

variable {bytes d}

theorem processUDPHeader_packet (h : (bytes d.payload).length + 8 < 65536) :
    processUDPHeader (d.packet bytes) =
      .ok ⟨d.sourcePort.toUInt32, d.destinationPort.toUInt32⟩ := by
  have hnetwork : (d.packet bytes).networkHeader = some 0 := rfl
  have htransport : (d.packet bytes).transportHeader = 20 := rfl
  have hproto : (d.packet bytes).u8 (0 + 9) = 17 := rfl
  have hsource : UInt32.ofNat (ntohs ((d.packet bytes).u16 (0 + 20))) = d.sourcePort.toUInt32 :=
    ofNat_net16 rfl
  have hdestination : UInt32.ofNat (ntohs ((d.packet bytes).u16 (0 + 20 + 2))) =
      d.destinationPort.toUInt32 := ofNat_net16 rfl
  have hlen : ntohs ((d.packet bytes).u16 (0 + 20 + 4)) = (bytes d.payload).length + 8 := by
    change ntohs ((UInt8.ofNat (((bytes d.payload).length + 8) / 256)).toNat +
      256 * (UInt8.ofNat ((bytes d.payload).length + 8)).toNat) = _
    rw [ntohs_net16, Nat.mod_eq_of_lt h]
  have hslice : (d.packet bytes).slice 20 ((bytes d.payload).length + 8) = d.datagram bytes := by
    exact (Packet.slice_append (d.packet_buffer bytes) _).trans
      (List.take_of_length_le (d.length_datagram bytes).le)
  have hverifies : clickInCksumPseudohdr (clickInCksum (d.datagram bytes)) (d.packet bytes) 0
      ((bytes d.payload).length + 8) = 0 := by
    rw [clickInCksumPseudohdr_packet]
    refine clickInCksumPseudohdrRaw_verifies (l := udpHeaderBytes d.sourcePort d.destinationPort
      ((bytes d.payload).length + 8) 0 ++ bytes d.payload) ?_ ?_ d.source d.destination _
    · rw [List.length_append, length_udpHeaderBytes]
      omega
    · rw [List.length_append, length_udpHeaderBytes]
      omega
  simp only [processUDPHeader, hnetwork, htransport, hproto, hsource, hdestination, hlen, hslice,
    hverifies, ne_eq, not_true_eq_false, if_false, ite_self]

end Packet

theorem bit_flags (x T r G M D B S : Bool) :
    let flags := UInt8.ofNat (x.toNat + 2 * T.toNat + 4 * r.toNat + 8 * G.toNat + 16 * M.toNat +
      32 * D.toNat + 64 * B.toNat + 128 * S.toNat)
    (bit flags 7 = S ∧ bit flags 6 = B ∧ bit flags 5 = D ∧ bit flags 4 = M) ∧
      (bit flags 3 = G ∧ bit flags 2 = r ∧ bit flags 1 = T ∧ bit flags 0 = x) := by
  revert x T r G M D B S
  decide

theorem ntohl_net32 (x : UInt32) :
    UInt32.ofNat (65536 * ntohs ((UInt8.ofNat (x.toNat / 65536 / 256)).toNat +
      256 * (UInt8.ofNat (x.toNat / 65536)).toNat) + ntohs ((UInt8.ofNat (x.toNat / 256)).toNat +
        256 * (UInt8.ofNat x.toNat).toNat)) = x := by
  have := x.toNat_lt
  refine UInt32.toNat_inj.1 ?_
  rw [ntohs_net16, ntohs_net16, UInt32.toNat_ofNat']
  omega

theorem request_fields (m : RegistrationRequestPacket) :
    (bit (m.bytes.getD 1 0) 7 = m.S ∧ bit (m.bytes.getD 1 0) 6 = m.B ∧
        bit (m.bytes.getD 1 0) 5 = m.D ∧ bit (m.bytes.getD 1 0) 4 = m.M ∧
        bit (m.bytes.getD 1 0) 3 = m.G ∧ bit (m.bytes.getD 1 0) 2 = m.r ∧
        bit (m.bytes.getD 1 0) 1 = m.T ∧ bit (m.bytes.getD 1 0) 0 = m.x) ∧
      UInt32.ofNat (ntohs (word m.bytes 2)) = m.lifetime.toUInt32 ∧
      (⟨m.bytes.getD 4 0, m.bytes.getD 5 0, m.bytes.getD 6 0, m.bytes.getD 7 0⟩ : IPAddress) =
        m.homeAddress ∧
      (⟨m.bytes.getD 8 0, m.bytes.getD 9 0, m.bytes.getD 10 0, m.bytes.getD 11 0⟩ : IPAddress) =
        m.homeAgent ∧
      (⟨m.bytes.getD 12 0, m.bytes.getD 13 0, m.bytes.getD 14 0, m.bytes.getD 15 0⟩ : IPAddress) =
        m.careOfAddress ∧
      UInt32.ofNat (65536 * ntohs (word m.bytes 20) + ntohs (word m.bytes 22)) =
        m.identification2 := by
  obtain ⟨⟨hS, hB, hD, hM⟩, hflags⟩ := bit_flags m.x m.T m.r m.G m.M m.D m.B m.S
  have hbytes : m.bytes = [m.type, UInt8.ofNat (m.x.toNat + 2 * m.T.toNat + 4 * m.r.toNat +
      8 * m.G.toNat + 16 * m.M.toNat + 32 * m.D.toNat + 64 * m.B.toNat + 128 * m.S.toNat),
      UInt8.ofNat (m.lifetime.toNat / 256), UInt8.ofNat m.lifetime.toNat] ++ m.homeAddress.bytes ++
      m.homeAgent.bytes ++ m.careOfAddress.bytes ++ net32 m.identification1.toNat ++
      net32 m.identification2.toNat := rfl
  rw [hbytes]
  refine ⟨⟨hS, hB, hD, hM, hflags⟩, ofNat_net16 rfl, rfl, rfl, rfl, ?_⟩
  exact ntohl_net32 m.identification2

theorem processUDPHeader_request (d : Datagram RegistrationRequestPacket) :
    processUDPHeader (d.packet RegistrationRequestPacket.bytes) =
      .ok ⟨d.sourcePort.toUInt32, d.destinationPort.toUInt32⟩ :=
  processUDPHeader_packet (by change 24 + 8 < 65536; decide)

/-- A request that arrives unmodified is read as it was sent, unless the checksum of its header
is 0. -/
theorem request_read_iff (d : Datagram RegistrationRequestPacket)
    (registration : RegistrationRequest) :
    (processRegistrationRequestPacket (d.packet RegistrationRequestPacket.bytes)).1 =
        .ok registration ↔
      headerSum 52 d.ttl 17 d.source d.destination ≠ 0 ∧ registration = d.request := by
  by_cases h : headerSum 52 d.ttl 17 d.source d.destination = 0
  · have hip := (d.packet_headed RegistrationRequestPacket.bytes).processIPHeader_zero h
    simp [processRegistrationRequestPacket, processUDPHeader_request, hip, h]
  have hip := (d.packet_headed RegistrationRequestPacket.bytes).processIPHeader h
  obtain ⟨⟨hS, hB, hD, hM, hG, hr, hT, hx⟩, hlifetime, hhome, hagent, hcareOf, hid⟩ :=
    request_fields d.payload
  have hread : (processRegistrationRequestPacket (d.packet RegistrationRequestPacket.bytes)).1 =
      .ok d.request := by
    simp only [processRegistrationRequestPacket, processUDPHeader_request, hip, ntohl, Packet.inAddr,
      add_assoc ((d.packet RegistrationRequestPacket.bytes).data + 28), packet_u8, packet_u16,
      Nat.reduceAdd, hS, hB, hD, hM, hG, hr, hT, hx, hlifetime, hhome, hagent, hcareOf, hid,
      Datagram.request]
  rw [hread, Except.ok.injEq]
  exact ⟨fun heq => ⟨h, heq.symm⟩, fun heq => heq.2.symm⟩

theorem reply_fields (m : RegistrationReplyPacket) :
    m.bytes.getD 1 0 = m.code ∧ UInt32.ofNat (ntohs (word m.bytes 2)) = m.lifetime.toUInt32 ∧
      (⟨m.bytes.getD 4 0, m.bytes.getD 5 0, m.bytes.getD 6 0, m.bytes.getD 7 0⟩ : IPAddress) =
        m.homeAddress ∧
      (⟨m.bytes.getD 8 0, m.bytes.getD 9 0, m.bytes.getD 10 0, m.bytes.getD 11 0⟩ : IPAddress) =
        m.homeAgent ∧
      UInt32.ofNat (65536 * ntohs (word m.bytes 16) + ntohs (word m.bytes 18)) =
        m.identification2 := by
  have hbytes : m.bytes = [m.type, m.code, UInt8.ofNat (m.lifetime.toNat / 256),
      UInt8.ofNat m.lifetime.toNat] ++ m.homeAddress.bytes ++ m.homeAgent.bytes ++
      net32 m.identification1.toNat ++ net32 m.identification2.toNat := rfl
  rw [hbytes]
  exact ⟨rfl, ofNat_net16 rfl, rfl, rfl, ntohl_net32 m.identification2⟩

theorem processUDPHeader_reply (d : Datagram RegistrationReplyPacket) :
    processUDPHeader (d.packet RegistrationReplyPacket.bytes) =
      .ok ⟨d.sourcePort.toUInt32, d.destinationPort.toUInt32⟩ :=
  processUDPHeader_packet (by change 20 + 8 < 65536; decide)

theorem reply_read_iff (d : Datagram RegistrationReplyPacket) (reply : RegistrationReply) :
    (processRegistrationReplyPacket (d.packet RegistrationReplyPacket.bytes)).1 = .ok reply ↔
      headerSum 48 d.ttl 17 d.source d.destination ≠ 0 ∧ reply = d.reply := by
  by_cases h : headerSum 48 d.ttl 17 d.source d.destination = 0
  · have hip := (d.packet_headed RegistrationReplyPacket.bytes).processIPHeader_zero h
    simp [processRegistrationReplyPacket, processUDPHeader_reply, hip, h]
  have hip := (d.packet_headed RegistrationReplyPacket.bytes).processIPHeader h
  obtain ⟨hcode, hlifetime, hhome, hagent, hid⟩ := reply_fields d.payload
  have hread : (processRegistrationReplyPacket (d.packet RegistrationReplyPacket.bytes)).1 =
      .ok d.reply := by
    simp only [processRegistrationReplyPacket, processUDPHeader_reply, hip, ntohl, Packet.inAddr,
      add_assoc ((d.packet RegistrationReplyPacket.bytes).data + 28), packet_u8, packet_u16,
      Nat.reduceAdd, hcode, hlifetime, hhome, hagent, hid, Datagram.reply]
  rw [hread, Except.ok.injEq]
  exact ⟨fun heq => ⟨h, heq.symm⟩, fun heq => heq.2.symm⟩

end Datagram

abbrev IsAdvertisement (type code : UInt8) : Prop := type = 9 ∧ (code = 16 ∨ code = 0)

def classify (proto : UInt8) (byte : ℕ → UInt8) : PacketType :=
  if proto = 1 then
    if IsAdvertisement (byte 20) (byte 21) then .advertisement
    else if byte 20 = 10 then .solicitation
    else .unkown
  else if proto = 4 then .ipinip
  else if proto = 17 then
    if byte 28 = 1 then .registration else if byte 28 = 3 then .reply else .unkown
  else .unkown

theorem getPacketType_eq_classify {p : Packet} {ip : ℕ} (hn : p.networkHeader = some ip) :
    getPacketType p = classify (p.u8 (ip + 9)) fun i =>
      p.u8 (p.data + i + if p.u16 (p.data + 12) = htons 0x0800 then 14 else 0) := by
  have hcode : ∀ n, p.data + 21 + n = p.data + 20 + n + 1 := fun n => by omega
  simp only [getPacketType, hn, classify, hcode]

theorem length_etherHeader (source destination : EthernetAddress) :
    (destination.eth.toList ++ source.eth.toList ++ [8, 0]).length = 14 := by
  simp

theorem etherEncap_u8 (p : Packet) (source destination : EthernetAddress) (i : ℕ) :
    (etherEncap p source destination).u8 (i + 14) = p.u8 (p.data + i) := by
  have hlength := length_etherHeader source destination
  have hbyte := Packet.u8_append (p := etherEncap p source destination) rfl i
  rw [hlength, add_comm] at hbyte
  rw [hbyte]
  simp [Packet.u8, Packet.bytes]

theorem getPacketType_etherEncap {p : Packet} (hn : p.networkHeader = some p.data)
    (source destination : EthernetAddress) : getPacketType (etherEncap p source destination) =
      classify (p.u8 (p.data + 9)) fun i => p.u8 (p.data + i) := by
  have hnetwork : (etherEncap p source destination).networkHeader = some 14 := by
    simp [etherEncap, hn]
  have hdata : (etherEncap p source destination).data = 0 := rfl
  have hether : (etherEncap p source destination).u16 (0 + 12) = htons 0x0800 := by
    have hbuffer : (etherEncap p source destination).buffer =
        destination.eth.toList ++ source.eth.toList ++ ([8, 0] ++ p.bytes) := by
      simp [etherEncap]
    have hword := Packet.u16_append hbuffer 0
    rwa [List.length_append, Vector.length_toList, Vector.length_toList] at hword
  have hproto : (etherEncap p source destination).u8 (14 + 9) = p.u8 (p.data + 9) :=
    etherEncap_u8 p source destination 9
  simp only [getPacketType_eq_classify hnetwork, hdata, hether, if_true, zero_add, hproto,
    etherEncap_u8]

end MobileIP
