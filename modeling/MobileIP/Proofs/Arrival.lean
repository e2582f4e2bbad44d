import MobileIP.Proofs.Advertisements
import MobileIP.Proofs.Exceptions
import MobileIP.Proofs.Tunnel
import MobileIP.Spec.Routers

/-! Packets that arrive in a frame. Behind the Ethernet header they stand at another place of the
buffer, and what the readers make of a packet does not depend on its place. -/

namespace MobileIP

namespace Packet

/-- The packet `q` has the bytes of `p`, at another place of its buffer. -/
structure Moved (p q : Packet) : Prop where
  bytes : q.bytes = p.bytes
  network : p.networkHeader = some p.data
  network' : q.networkHeader = some q.data
  transport : ∃ n, p.transportHeader = p.data + n ∧ q.transportHeader = q.data + n

namespace Moved

variable {p q : Packet} (h : p.Moved q)

include h

theorem u8 (i : ℕ) : q.u8 (q.data + i) = p.u8 (p.data + i) := by
  rw [u8_data, u8_data, h.bytes]

theorem u8_zero : q.u8 q.data = p.u8 p.data := h.u8 0

theorem u16 (i : ℕ) : q.u16 (q.data + i) = p.u16 (p.data + i) := by
  rw [Packet.u16, Packet.u16, h.u8, add_assoc, h.u8, add_assoc]

theorem inAddr (i : ℕ) : q.inAddr (q.data + i) = p.inAddr (p.data + i) := by
  refine inAddr_congr fun k _ => ?_
  rw [add_assoc, h.u8, add_assoc]

theorem slice (i n : ℕ) : q.slice (q.data + i) n = p.slice (p.data + i) n := by
  have hdrop : ∀ r : Packet, r.buffer.drop (r.data + i) = r.bytes.drop i := by
    intro r
    rw [Packet.bytes, List.drop_drop]
  rw [Packet.slice, Packet.slice, hdrop, hdrop, h.bytes]

theorem slice_zero (n : ℕ) : q.slice q.data n = p.slice p.data n := h.slice 0 n

theorem length : q.length = p.length := by
  rw [← length_bytes, ← length_bytes, h.bytes]

theorem setU16 (i w : ℕ) : (p.setU16 (p.data + i) w).Moved (q.setU16 (q.data + i) w) := by
  refine ⟨?_, h.network, h.network', h.transport⟩
  exact (q.bytes_setU16 i w).trans ((congrArg (setWord · i w) h.bytes).trans
    (p.bytes_setU16 i w).symm)

theorem getPacketType : getPacketType q = getPacketType p := by
  rw [getPacketType_eq_classify h.network, getPacketType_eq_classify h.network', h.u8, h.u16]
  simp only [add_assoc, h.u8]

theorem sourceRoute (e fuel o : ℕ) : sourceRoute q (q.data + e) fuel (q.data + o) =
    sourceRoute p (p.data + e) fuel (p.data + o) := by
  induction fuel generalizing o with
  | zero => rfl
  | succ fuel ih =>
    have hnext (k : ℕ) : MobileIP.sourceRoute q (q.data + e) fuel (q.data + o + k) =
        MobileIP.sourceRoute p (p.data + e) fuel (p.data + o + k) := by
      rw [add_assoc, add_assoc]
      exact ih (o + k)
    have hlast (len : ℕ) (hlen : 7 ≤ len) :
        q.inAddr (q.data + o + len - 4) = p.inAddr (p.data + o + len - 4) := by
      rw [show q.data + o + len - 4 = q.data + (o + len - 4) by omega,
        show p.data + o + len - 4 = p.data + (o + len - 4) by omega]
      exact h.inAddr _
    have hend : q.data + e ≤ q.data + o ↔ p.data + e ≤ p.data + o := by omega
    have hle (k : ℕ) : q.data + e ≤ q.data + o + k ↔ p.data + e ≤ p.data + o + k := by omega
    have hlt (k : ℕ) : q.data + e < q.data + o + k ↔ p.data + e < p.data + o + k := by omega
    have hlen : q.u8 (q.data + o + 1) = p.u8 (p.data + o + 1) := h.u8 (o + 1)
    simp only [MobileIP.sourceRoute, h.u8, hlen, hend, hle, hlt, hnext]
    split_ifs with _ _ _ _ hroute
    · rfl
    · rfl
    · rfl
    · rfl
    · rw [hlast _ hroute.2]
    · rfl

theorem clickInCksumPseudohdr (csum len : ℕ) : clickInCksumPseudohdr csum q q.data len =
    clickInCksumPseudohdr csum p p.data len := by
  simp only [MobileIP.clickInCksumPseudohdr, h.u8_zero, h.u8, h.inAddr, h.sourceRoute]

theorem processUDPHeader : processUDPHeader q = processUDPHeader p := by
  obtain ⟨n, hp, hq⟩ := h.transport
  simp only [MobileIP.processUDPHeader, h.network, h.network', hp, hq, add_assoc, h.u8, h.u16,
    h.slice, h.clickInCksumPseudohdr]

theorem processIPHeader : (processIPHeader q).1 = (processIPHeader p).1 ∧
    (processIPHeader p).2.Moved (processIPHeader q).2 := by
  have hslice := (h.setU16 10 0).slice_zero 20
  have hset : ∀ w, ((p.setU16 (p.data + 10) 0).setU16 (p.data + 10) w).Moved
      ((q.setU16 (q.data + 10) 0).setU16 (q.data + 10) w) := (h.setU16 10 0).setU16 10
  simp only [MobileIP.processIPHeader, h.network, h.network', h.inAddr, h.u16]
  split_ifs with hzero hsum hsum' hsum'
  · exact ⟨rfl, h⟩
  · exact ⟨rfl, h.setU16 10 0⟩
  · exact absurd (hslice ▸ hsum) hsum'
  · exact absurd (hslice ▸ hsum') hsum
  · exact ⟨rfl, hset _⟩

theorem processRegistrationRequestPacket : (processRegistrationRequestPacket q).1 =
    (processRegistrationRequestPacket p).1 := by
  have hip := h.processIPHeader.1
  simp only [MobileIP.processRegistrationRequestPacket, h.processUDPHeader, add_assoc, h.u8, h.u16,
    h.inAddr, ntohl]
  cases MobileIP.processUDPHeader p with
  | error e => rfl
  | ok udp =>
    generalize MobileIP.processIPHeader q = a at hip ⊢
    generalize MobileIP.processIPHeader p = b at hip ⊢
    obtain ⟨x, q'⟩ := a
    obtain ⟨y, p'⟩ := b
    obtain rfl : x = y := hip
    cases x with
    | error e => rfl
    | ok ip => rfl

theorem processRegistrationReplyPacket : (processRegistrationReplyPacket q).1 =
    (processRegistrationReplyPacket p).1 := by
  have hip := h.processIPHeader.1
  simp only [MobileIP.processRegistrationReplyPacket, h.processUDPHeader, add_assoc, h.u8, h.u16,
    h.inAddr, ntohl]
  cases MobileIP.processUDPHeader p with
  | error e => rfl
  | ok udp =>
    generalize MobileIP.processIPHeader q = a at hip ⊢
    generalize MobileIP.processIPHeader p = b at hip ⊢
    obtain ⟨x, q'⟩ := a
    obtain ⟨y, p'⟩ := b
    obtain rfl : x = y := hip
    cases x with
    | error e => rfl
    | ok ip => rfl

end Moved

/-- A packet that is all of its datagram, with a header that `CheckIPHeader` accepts. -/
structure Whole (p : Packet) : Prop where
  accepted : CheckIPHeader.Accepted p p.data
  length : ntohs (p.u16 (p.data + 2)) = p.length
  transport : p.transportHeader = p.data + 4 * ((p.u8 p.data).toNat % 16)

theorem Moved.whole {p q : Packet} (h : p.Moved q) (hp : p.Whole) : q.Whole := by
  obtain ⟨n, htp, htq⟩ := h.transport
  have hlength : ntohs (q.u16 (q.data + 2)) = q.length := by
    rw [h.u16, h.length, hp.length]
  refine ⟨⟨h.network', ?_, ?_, ?_, ?_, ?_⟩, hlength, ?_⟩
  · rw [h.u8_zero]
    exact hp.accepted.version
  · rw [h.u8_zero]
    exact hp.accepted.headerLength
  · rw [h.u8_zero, h.u16]
    exact hp.accepted.header
  · have hlong : 20 ≤ q.length := by
      have hhl := hp.accepted.headerLength
      have hheader := hp.accepted.header
      have hplength := hp.length
      have hqlength := h.length
      omega
    rw [hlength]
    rw [Packet.length] at hlong ⊢
    omega
  · rw [h.u8_zero, h.slice_zero]
    exact hp.accepted.verifies
  · have htransport := hp.transport
    rw [htq, h.u8_zero]
    omega

theorem Whole.check {p : Packet} (hp : p.Whole) : CheckIPHeader.simpleAction {} p = some p := by
  have hv := hp.accepted.version
  have hhl := hp.accepted.headerLength
  have hheader := hp.accepted.header
  have hlength := hp.length
  have hset : p.setIPHeader p.data (4 * ((p.u8 p.data).toNat % 16)) = p := by
    rw [Packet.setIPHeader, ← hp.transport, ← hp.accepted.network]
  have hlong : ¬ p.length < 20 := by omega
  have hversion : ¬ (p.u8 p.data).toNat / 16 ≠ 4 := by omega
  have hshort : ¬ 4 * ((p.u8 p.data).toNat % 16) < 20 := by omega
  have hfits : ¬ p.length < 4 * ((p.u8 p.data).toNat % 16) := by omega
  simp [CheckIPHeader.simpleAction, hlength, hlong, hversion, hshort, hfits, hp.accepted.verifies,
    hset]

end Packet

section Frames

variable (p : Packet) (source destination : EthernetAddress)

theorem frame_eq : frame p source destination =
    (destination.eth.toList ++ source.eth.toList ++ [8, 0]) ++ p.bytes := rfl

theorem frame_length : (frame p source destination).length = 14 + p.length := by
  rw [frame_eq, List.length_append, length_etherHeader, Packet.length_bytes]

theorem read_pull : (FromHost.read (frame p source destination)).pull 14 =
    { buffer := frame p source destination
      data := 14
      networkHeader := some 14
      transportHeader := 14 + 4 * ((p.u8 p.data).toNat % 16) } := by
  have hbyte : (frame p source destination).getD 14 0 = p.u8 p.data :=
    etherEncap_u8 p source destination 0
  have hlong : 14 ≤ (frame p source destination).length := by
    rw [frame_length]
    exact Nat.le_add_right _ _
  simp only [FromHost.read, Packet.pull, hbyte, Packet.length, Nat.sub_zero, Nat.zero_add,
    Nat.min_eq_left hlong]

theorem read_moved (hn : p.networkHeader = some p.data)
    (ht : p.transportHeader = p.data + 4 * ((p.u8 p.data).toNat % 16)) :
    p.Moved ((FromHost.read (frame p source destination)).pull 14) := by
  rw [read_pull]
  refine ⟨?_, hn, rfl, _, ht, rfl⟩
  rw [Packet.bytes, frame_eq, ← length_etherHeader source destination, List.drop_left]

theorem read_destination :
    (processEtherHeader (FromHost.read (frame p source destination)) false).1.destination =
      destination := by
  have hbyte (i : Fin 6) : (FromHost.read (frame p source destination)).u8 (0 + i) =
      destination.eth[i] := by
    have hi : (i : ℕ) < destination.eth.toList.length := by simp
    rw [Nat.zero_add, Packet.u8]
    change (destination.eth.toList ++ source.eth.toList ++ [8, 0] ++ p.bytes).getD i 0 = _
    rw [List.append_assoc, List.append_assoc, List.getD_append _ _ _ _ hi,
      List.getD_eq_getElem _ _ hi]
    simp
  change (⟨Vector.ofFn fun i : Fin 6 => (FromHost.read (frame p source destination)).u8 (0 + i)⟩ :
    EthernetAddress) = destination
  obtain ⟨eth⟩ := destination
  congr 1
  ext i hi
  simpa using congrArg UInt8.toNat (hbyte ⟨i, hi⟩)

theorem filter_frame {ether : EthernetAddress}
    (hether : destination = ether ∨ destination.isBroadcast = true) :
    HostEtherFilter.simpleAction ether (FromHost.read (frame p source destination)) =
      some (FromHost.read (frame p source destination)) := by
  rw [HostEtherFilter.simpleAction, read_destination]
  rcases hether with rfl | hall
  · rw [if_pos rfl]
  · simp only [hall, if_true, ite_self]

theorem classifier_frame :
    Classifier.push (FromHost.read (frame p source destination)) = some 2 := by
  have hlength : (destination.eth.toList ++ source.eth.toList).length = 0 + 12 := by simp
  have hbuffer : (FromHost.read (frame p source destination)).buffer =
      (destination.eth.toList ++ source.eth.toList) ++ ([8, 0] ++ p.bytes) :=
    List.append_assoc _ _ _
  have htype : (FromHost.read (frame p source destination)).slice (0 + 12) 2 = [8, 0] := by
    rw [← hlength, Packet.slice_append hbuffer]
    rfl
  have hdata : (FromHost.read (frame p source destination)).data = 0 := rfl
  have harp : ¬ [(8 : UInt8), 0] = [8, 6] := by decide
  simp only [Classifier.push, hdata, htype, harp, false_and, if_false, if_true]

variable {p}

theorem check_frame (hp : p.Whole) :
    CheckIPHeader.simpleAction {} ((FromHost.read (frame p source destination)).pull 14) =
      some ((FromHost.read (frame p source destination)).pull 14) :=
  ((read_moved p source destination hp.accepted.network hp.transport).whole hp).check

end Frames

theorem whole_of_header {tos ttl proto : UInt8} {source destination : IPAddress}
    {header rest : List UInt8} (hshort : 20 + rest.length < 65536)
    (hheader : header = ipHeaderBytes tos (20 + rest.length) ttl proto
      (clickInCksum (ipHeaderBytes tos (20 + rest.length) ttl proto 0 source destination)) source
      destination) :
    Packet.Whole ⟨header ++ rest, 0, some 0, 20⟩ := by
  have hlength : header.length = 20 := by rw [hheader]; rfl
  have hbyte (i : ℕ) (hi : i < 20) :
      Packet.u8 ⟨header ++ rest, 0, some 0, 20⟩ i = header.getD i 0 := by
    rw [Packet.u8, List.getD_append _ _ _ _ (hlength.symm ▸ hi)]
  have hversion : Packet.u8 ⟨header ++ rest, 0, some 0, 20⟩ 0 = 0x45 := by
    rw [hbyte 0 (by decide), hheader]
    rfl
  have hhl : 4 * ((0x45 : UInt8).toNat % 16) = 20 := by decide
  have htotal : ntohs (Packet.u16 ⟨header ++ rest, 0, some 0, 20⟩ (0 + 2)) = 20 + rest.length := by
    rw [Packet.u16, hbyte 2 (by decide), hbyte 3 (by decide), hheader]
    exact (ntohs_net16 _).trans (Nat.mod_eq_of_lt hshort)
  have hverifies : clickInCksum (Packet.slice ⟨header ++ rest, 0, some 0, 20⟩ 0 20) = 0 := by
    rw [Packet.slice, List.drop_zero, ← hlength, List.take_left, hheader]
    exact ipHeaderBytes_verifies tos _ ttl proto source destination
  refine ⟨⟨rfl, ?_, ?_, ?_, ?_, ?_⟩, ?_, ?_⟩
  · rw [hversion]
    decide
  · rw [hversion]
    decide
  · rw [hversion, htotal, hhl]
    exact Nat.le_add_right _ _
  · rw [htotal, List.length_append, hlength, Nat.zero_add]
  · rw [hversion, hhl]
    exact hverifies
  · rw [htotal, Packet.length, List.length_append, hlength, Nat.sub_zero]
  · rw [hversion, hhl]

theorem Datagram.packet_whole {α : Type} (d : Datagram α) {bytes : α → List UInt8}
    (hshort : (bytes d.payload).length + 8 + 20 < 65536) : (d.packet bytes).Whole := by
  have hrest : 20 + (d.datagram bytes).length = (bytes d.payload).length + 8 + 20 := by
    rw [length_datagram, add_comm]
  have hpacket : d.packet bytes = ⟨_, 0, some 0, 20⟩ := congrArg
    (Packet.mk · 0 (some 0) 20) (d.packet_buffer bytes)
  rw [hpacket]
  exact whole_of_header (by omega) (by rw [hrest]; rfl)

theorem ICMPIPfy_whole {packet : List UInt8} (hshort : packet.length + 20 < 65536)
    (source destination : IPAddress) (ttl : UInt8) :
    (ICMPIPfy packet source destination ttl).Whole :=
  whole_of_header (by omega) (by rw [add_comm 20])

end MobileIP
