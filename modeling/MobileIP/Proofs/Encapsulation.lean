import MobileIP.Proofs.Advertisements
import MobileIP.Spec.Tunnel

/-! What the encapsulator puts in a tunnel, the decapsulator takes out again. -/

namespace MobileIP

namespace Packet

theorem u8_data (p : Packet) (i : ℕ) : p.u8 (p.data + i) = p.bytes.getD i 0 := by
  simp [u8, bytes]

theorem bytes_setU8 (p : Packet) (i : ℕ) (b : UInt8) :
    (p.setU8 (p.data + i) b).bytes = p.bytes.set i b := by
  simp only [setU8, bytes, List.set_drop]

theorem bytes_setU16 (p : Packet) (i w : ℕ) :
    (p.setU16 (p.data + i) w).bytes = setWord p.bytes i w := by
  simp only [setU16, setU8, bytes, setWord, List.set_drop, add_assoc]

theorem inAddr_congr {p q : Packet} {i j : ℕ} (h : ∀ k < 4, q.u8 (j + k) = p.u8 (i + k)) :
    q.inAddr j = p.inAddr i := by
  simp only [inAddr, IPAddress.mk.injEq]
  exact ⟨h 0 (by decide), h 1 (by decide), h 2 (by decide), h 3 (by decide)⟩

theorem length_bytes (p : Packet) : p.bytes.length = p.length := by
  simp [bytes, length]

theorem getPacketType_ipinip {p : Packet} (hn : p.networkHeader = some p.data)
    (hp : p.u8 (p.data + 9) = 4) : getPacketType p = .ipinip := by
  rw [getPacketType_eq_classify hn, hp]
  rfl

end Packet

theorem toNat_ttl_pred {ttl : UInt8} (h : ttl ≠ 0) : (ttl - 1).toNat + 1 = ttl.toNat := by
  have hle : (1 : UInt8).toNat ≤ ttl.toNat :=
    Nat.one_le_iff_ne_zero.2 fun h0 => h (UInt8.toNat_inj.1 h0)
  rw [UInt8.toNat_sub_of_le _ _ (UInt8.le_iff_toNat_le.2 hle)]
  exact Nat.sub_add_cancel hle

structure AgreeExcept (places : List ℕ) (l l' : List UInt8) : Prop where
  length : l'.length = l.length
  byte : ∀ i ∉ places, l'.getD i 0 = l.getD i 0

/-- An IPv4 packet for `h` with a header of 20 bytes, whose checksum is not zero and verifies. -/
structure DataPacket (h : IPAddress) (p : Packet) : Prop where
  network : p.networkHeader = some p.data
  header : p.u8 p.data = 0x45
  long : 20 ≤ p.length
  short : p.length ≤ 65515
  ttl : p.u8 (p.data + 8) ≠ 0
  checksum : p.u16 (p.data + 10) ≠ 0
  verifies : clickInCksum (p.slice p.data 20) = 0
  destination : p.inAddr (p.data + 16) = h

structure Tunnels (source destination : IPAddress) (p q : Packet) : Prop where
  network : q.networkHeader = some q.data
  header : q.u8 q.data = 0x45
  totalLength : ntohs (q.u16 (q.data + 2)) = q.length
  ttl : (q.u8 (q.data + 8)).toNat + 1 = (p.u8 (p.data + 8)).toNat
  protocol : q.u8 (q.data + 9) = 4
  source : q.inAddr (q.data + 12) = source
  destination : q.inAddr (q.data + 16) = destination
  verifies : clickInCksum (q.slice q.data 20) = 0
  payload : q.bytes.drop 20 = p.bytes

structure Forwarded (q q' : Packet) : Prop where
  network : q'.networkHeader = some q'.data
  bytes : AgreeExcept [8, 10, 11] q.bytes q'.bytes
  verifies : clickInCksum (q'.slice q'.data 20) = 0

structure Restored (p r : Packet) (ttl : UInt8) : Prop where
  bytes : AgreeExcept [8, 10, 11] p.bytes r.bytes
  ttl : r.u8 (r.data + 8) = ttl
  verifies : clickInCksum (r.slice r.data 20) = 0

theorem buildTunnelIPPacket_length (p : Packet) (source destination : IPAddress) :
    (buildTunnelIPPacket p source destination).length = 20 + p.length := by
  rw [← Packet.length_bytes, ← Packet.length_bytes]
  exact List.length_append

theorem buildTunnelIPPacket_totalLength {p : Packet} (h : p.length ≤ 65515)
    (source destination : IPAddress) :
    ntohs ((buildTunnelIPPacket p source destination).u16 2) = 20 + p.length := by
  have hword : (buildTunnelIPPacket p source destination).u16 2 =
      (UInt8.ofNat ((p.length + 20) / 256)).toNat +
        256 * (UInt8.ofNat (p.length + 20)).toNat := rfl
  rw [hword, ntohs_bytes (UInt8.toNat_lt _) (UInt8.toNat_lt _), UInt8.toNat_ofNat',
    UInt8.toNat_ofNat']
  omega

theorem buildTunnelIPPacket_ttl {p : Packet} (hn : p.networkHeader = some p.data)
    (source destination : IPAddress) :
    (buildTunnelIPPacket p source destination).u8 8 = p.u8 (p.data + 8) - 1 := by
  change p.u8 (p.networkHeader.getD 0 + 8) - 1 = _
  rw [hn]
  rfl

theorem buildTunnelIPPacket_tunnels {h : IPAddress} {p : Packet} (hp : DataPacket h p)
    (source destination : IPAddress) :
    Tunnels source destination p (buildTunnelIPPacket p source destination) := by
  refine ⟨rfl, rfl, ?_, ?_, rfl, rfl, rfl, ?_, rfl⟩
  · rw [buildTunnelIPPacket_length]
    exact buildTunnelIPPacket_totalLength hp.short source destination
  · change ((buildTunnelIPPacket p source destination).u8 8).toNat + 1 = _
    rw [buildTunnelIPPacket_ttl hp.network]
    exact toNat_ttl_pred hp.ttl
  · exact ipHeaderBytes_verifies _ _ _ _ _ _

theorem DataPacket.buffer {h : IPAddress} {p : Packet} (hp : DataPacket h p) :
    p.data + 20 ≤ p.buffer.length := by
  have hlong := hp.long
  rw [Packet.length] at hlong
  omega

theorem DataPacket.version {h : IPAddress} {p : Packet} (hp : DataPacket h p) :
    p.u8 p.data ≠ 0 := by
  rw [hp.header]
  decide

theorem encapsulator_push {h : IPAddress} {p : Packet} (hp : DataPacket h p)
    (hsum : p.u16 (p.data + 10) ≠ 65535) (ha : MobileIPHomeAgent) :
    MobileIPEncapsulator.push ha p =
      if MobilityBindingList.isMobileBinded h ha.mobilityBindings then
        .ok [(1, buildTunnelIPPacket p ha.publicAddress
          (MobilityBindingList.getCareOfAddress h ha.mobilityBindings))]
      else .ok [(0, p)] := by
  have hread := processIPHeader_of_verifies hp.buffer hp.version hp.verifies hp.checksum hp.network
    hsum
  simp only [MobileIPEncapsulator.push, hread, hp.destination]

theorem encapsulator_push_all_ones {h : IPAddress} {p : Packet} (hp : DataPacket h p)
    (hsum : p.u16 (p.data + 10) = 65535) (ha : MobileIPHomeAgent) :
    MobileIPEncapsulator.push ha p = .error (.invalidChecksum "IP Header") := by
  have hread := processIPHeader_of_all_ones hp.buffer hp.version hp.network
    hsum
  rcases hres : processIPHeader p with ⟨res, p'⟩
  rw [hres] at hread
  obtain rfl : res = _ := hread
  simp only [MobileIPEncapsulator.push, hres]

theorem AgreeExcept.drop_eq {places : List ℕ} {l l' : List UInt8} (h : AgreeExcept places l l')
    {n : ℕ} (hn : ∀ i ∈ places, i < n) : l'.drop n = l.drop n := by
  refine List.ext_getElem (by simp [h.length]) fun i hi hi' => ?_
  have hbyte := h.byte (n + i) fun hm => by have := hn _ hm; omega
  simp only [List.length_drop] at hi hi'
  rw [List.getD_eq_getElem _ _ (by omega), List.getD_eq_getElem _ _ (by omega)] at hbyte
  simpa using hbyte

theorem agreeExcept_set {places : List ℕ} {l l' : List UInt8} (h : AgreeExcept places l l') {i : ℕ}
    (hi : i ∈ places) (b : UInt8) : AgreeExcept places l (l'.set i b) := by
  refine ⟨by simp [h.length], fun j hj => ?_⟩
  rw [← h.byte j hj]
  simp [show i ≠ j from fun heq => hj (heq ▸ hi)]

theorem agreeExcept_rewritten (l : List UInt8) (ttl : UInt8) (sum : ℕ) :
    AgreeExcept [8, 10, 11] l (setWord (l.set 8 ttl) 10 sum) := by
  have hset : AgreeExcept [8, 10, 11] l (l.set 8 ttl) :=
    agreeExcept_set ⟨rfl, fun _ _ => rfl⟩ (by decide) ttl
  exact agreeExcept_set (agreeExcept_set hset (by decide) _) (by decide) _

theorem ttl_rewritten {l : List UInt8} (h : 8 < l.length) (ttl : UInt8) (sum : ℕ) :
    (setWord (l.set 8 ttl) 10 sum).getD 8 0 = ttl := by
  simp [setWord, h]

theorem processTunnelIPPacket_bytes {q : Packet} (hlong : 20 ≤ q.length) :
    (processTunnelIPPacket q true).2.bytes =
      setWord ((q.bytes.drop 20).set 8 (q.u8 (q.data + 8))) 10 (clickInCksum
        (setWord (((q.bytes.drop 20).set 8 (q.u8 (q.data + 8))).take 20) 10 0)) := by
  have hpull : (q.pull 20).bytes = q.bytes.drop 20 := by
    simp only [Packet.pull, Packet.bytes, min_eq_left hlong, List.drop_drop]
  let p₁ := (q.pull 20).setU8 ((q.pull 20).data + 8) (q.u8 (q.data + 8))
  let p₂ := p₁.setU16 (p₁.data + 10) 0
  have hp₁ : p₁.bytes = (q.bytes.drop 20).set 8 (q.u8 (q.data + 8)) := by
    rw [← hpull, ← Packet.bytes_setU8]
  have hp₂ : p₂.bytes = setWord p₁.bytes 10 0 := p₁.bytes_setU16 10 0
  calc (processTunnelIPPacket q true).2.bytes
      = setWord p₂.bytes 10 (clickInCksum (p₂.bytes.take 20)) := p₂.bytes_setU16 10 _
    _ = _ := by rw [hp₂, setWord_setWord, take_setWord, hp₁]

theorem processTunnelIPPacket_rewrites {q : Packet} {inner : List UInt8}
    (hinner : q.bytes.drop 20 = inner) (hlong : 20 ≤ inner.length) (hversion : inner.getD 0 0 ≠ 0) :
    AgreeExcept [8, 10, 11] inner (processTunnelIPPacket q true).2.bytes ∧
      (processTunnelIPPacket q true).2.bytes.getD 8 0 = q.u8 (q.data + 8) ∧
      clickInCksum ((processTunnelIPPacket q true).2.bytes.take 20) = 0 := by
  have hq : 20 ≤ q.length := by
    rw [← hinner, List.length_drop, q.length_bytes] at hlong
    omega
  have hbytes := processTunnelIPPacket_bytes hq
  rw [hinner] at hbytes
  rw [hbytes]
  refine ⟨agreeExcept_rewritten _ _ _, ttl_rewritten (by omega) _ _, ?_⟩
  rw [take_setWord]
  have hshort : ((inner.set 8 (q.u8 (q.data + 8))).take 20).length = 20 := by
    simp only [List.length_take, List.length_set]
    omega
  refine clickInCksum_setWord rfl (by omega) (by omega) ?_
  refine wordSum_setWord_ne_zero (by decide) ?_ 0
  simpa using hversion

theorem processTunnelIPPacket_restores {p q : Packet} (hpayload : q.bytes.drop 20 = p.bytes)
    (hlong : 20 ≤ p.length) (hversion : p.u8 p.data ≠ 0) :
    (processTunnelIPPacket q true).1.originalIP =
        ⟨p.inAddr (p.data + 12), p.inAddr (p.data + 16)⟩ ∧
      Restored p (processTunnelIPPacket q true).2 (q.u8 (q.data + 8)) := by
  have hbyte : ∀ i, q.u8 (q.data + 20 + i) = p.u8 (p.data + i) := by
    intro i
    rw [p.u8_data, ← hpayload, add_assoc, q.u8_data]
    simp
  have haddress : ∀ i, q.inAddr (q.data + 20 + i) = p.inAddr (p.data + i) := by
    intro i
    refine Packet.inAddr_congr fun k _ => ?_
    rw [add_assoc (q.data + 20), add_assoc p.data, hbyte]
  have hhead : p.bytes.getD 0 0 ≠ 0 := by
    rw [← p.u8_data, add_zero]
    exact hversion
  rw [← p.length_bytes] at hlong
  obtain ⟨hagree, httl, hverifies⟩ := processTunnelIPPacket_rewrites hpayload hlong hhead
  refine ⟨?_, hagree, ?_, hverifies⟩
  · rw [← haddress, ← haddress]
    rfl
  · rw [Packet.u8_data]
    exact httl

theorem decapsulates {h source destination : IPAddress} {p q q' : Packet}
    {fa : MobileIPForeignAgent} (hp : DataPacket h p) (hq : Tunnels source destination p q)
    (hf : Forwarded q q') (hvisitor : VisitorList.has h source fa.visitors = true) :
    ∃ r, MobileIPDecapsulator.push fa q' = [(1, r)] ∧ Restored p r (q'.u8 (q'.data + 8)) := by
  have hbyte : ∀ i, i ∉ [8, 10, 11] → q'.u8 (q'.data + i) = q.u8 (q.data + i) := fun i hi => by
    rw [Packet.u8_data, Packet.u8_data, hf.bytes.byte i hi]
  have hpayload : q'.bytes.drop 20 = p.bytes := by
    rw [hf.bytes.drop_eq (by simp), hq.payload]
  have htype : getPacketType q' = .ipinip := by
    apply Packet.getPacketType_ipinip hf.network
    rw [hbyte 9 (by decide), hq.protocol]
  have hsource : (processTunnelIPPacket q' true).1.source = source := by
    rw [← hq.source]
    refine Packet.inAddr_congr fun k _ => ?_
    rw [add_assoc, add_assoc, hbyte _ (by simp; omega)]
  obtain ⟨hinner, hrestored⟩ := processTunnelIPPacket_restores hpayload hp.long hp.version
  refine ⟨_, ?_, hrestored⟩
  simp only [MobileIPDecapsulator.push, htype, if_true, hsource, hinner, hp.destination, hvisitor]

end MobileIP
