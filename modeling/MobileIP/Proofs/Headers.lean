import MobileIP.Proofs.Checksum
import MobileIP.Proofs.Messages

/-! The IP headers that the builders write, the reader reads, with one exception: it refuses a
header whose checksum comes out as 0. -/

namespace MobileIP

theorem ntohs_bytes {a b : ℕ} (ha : a < 256) (hb : b < 256) :
    ntohs (a + 256 * b) = 256 * a + b := by
  unfold ntohs
  omega

theorem ntohs_net16 (w : ℕ) :
    ntohs ((UInt8.ofNat (w / 256)).toNat + 256 * (UInt8.ofNat w).toNat) = w % 65536 := by
  rw [ntohs_bytes (UInt8.toNat_lt _) (UInt8.toNat_lt _), UInt8.toNat_ofNat', UInt8.toNat_ofNat']
  omega

theorem ofNat_mod_toUInt16 (x : UInt32) : UInt32.ofNat (x.toNat % 65536) = x.toUInt16.toUInt32 := by
  refine UInt32.toNat_inj.1 ?_
  rw [UInt32.toNat_ofNat', UInt16.toNat_toUInt32, UInt32.toNat_toUInt16]
  omega

theorem ofNat_mod_toUInt32 (x : UInt16) : UInt32.ofNat (x.toNat % 65536) = x.toUInt32 := by
  refine UInt32.toNat_inj.1 ?_
  have := x.toNat_lt
  rw [UInt32.toNat_ofNat', UInt16.toNat_toUInt32]
  omega

theorem ofNat_net16 {x : UInt16} {w : ℕ} (hw : w = (UInt8.ofNat (x.toNat / 256)).toNat +
    256 * (UInt8.ofNat x.toNat).toNat) : UInt32.ofNat (ntohs w) = x.toUInt32 := by
  rw [hw, ntohs_net16, ofNat_mod_toUInt32]

theorem host16_toNat {w : ℕ} (h : w < 65536) :
    (UInt8.ofNat w).toNat + 256 * (UInt8.ofNat (w / 256)).toNat = w := by
  rw [UInt8.toNat_ofNat', UInt8.toNat_ofNat']
  omega

theorem clickInCksum_lt (l : List UInt8) : clickInCksum l < 65536 := by
  unfold clickInCksum
  omega

theorem ipHeaderBytes_setWord (tos : UInt8) (len : ℕ) (ttl proto : UInt8) (sum : ℕ)
    (source destination : IPAddress) :
    ipHeaderBytes tos len ttl proto sum source destination =
      setWord (ipHeaderBytes tos len ttl proto 0 source destination) 10 sum := rfl

theorem ipHeaderBytes_ne_zero (tos : UInt8) (len : ℕ) (ttl proto : UInt8)
    (source destination : IPAddress) :
    wordSum (setWord (ipHeaderBytes tos len ttl proto 0 source destination) 10 0) ≠ 0 :=
  wordSum_setWord_ne_zero (by decide) (by change (0x45 : UInt8) ≠ 0; decide) 0

theorem ipHeaderBytes_verifies (tos : UInt8) (len : ℕ) (ttl proto : UInt8)
    (source destination : IPAddress) :
    clickInCksum (ipHeaderBytes tos len ttl proto
      (clickInCksum (ipHeaderBytes tos len ttl proto 0 source destination)) source destination)
        = 0 := by
  rw [ipHeaderBytes_setWord]
  exact clickInCksum_setWord rfl (by change 10 + 1 < 20; decide) (by change 20 ≤ 65536; decide)
    (ipHeaderBytes_ne_zero _ _ _ _ _ _)

/-- The checksum that the builders write in a header of theirs. -/
def headerSum (len : ℕ) (ttl proto : UInt8) (source destination : IPAddress) : ℕ :=
  clickInCksum (ipHeaderBytes 0 len ttl proto 0 source destination)

theorem headerSum_ne_all_ones (len : ℕ) (ttl proto : UInt8) (source destination : IPAddress) :
    headerSum len ttl proto source destination ≠ 65535 := by
  refine clickInCksum_ne_all_ones (by change 20 ≤ 65536; decide) ?_
  rw [ipHeaderBytes_setWord]
  exact ipHeaderBytes_ne_zero 0 len ttl proto source destination

namespace Packet

structure Headed (p : Packet) (front rest : List UInt8) (len : ℕ) (ttl proto : UInt8)
    (source destination : IPAddress) : Prop where
  buffer : p.buffer = front ++ ipHeaderBytes 0 len ttl proto
    (headerSum len ttl proto source destination) source destination ++ rest
  network : p.networkHeader = some front.length

variable {p : Packet} {front rest : List UInt8} {len : ℕ} {ttl proto : UInt8}
  {source destination : IPAddress}

theorem u8_append (h : p.buffer = front ++ rest) (i : ℕ) :
    p.u8 (front.length + i) = rest.getD i 0 := by
  rw [u8, h, List.getD_append_right _ _ _ _ (Nat.le_add_right _ _), Nat.add_sub_cancel_left]

theorem u16_append (h : p.buffer = front ++ rest) (i : ℕ) :
    p.u16 (front.length + i) = word rest i := by
  rw [u16, add_assoc, u8_append h, u8_append h, word]

theorem slice_append (h : p.buffer = front ++ rest) (n : ℕ) :
    p.slice front.length n = rest.take n := by
  rw [slice, h, List.drop_left]

theorem Headed.append (h : p.Headed front rest len ttl proto source destination) :
    p.buffer = front ++ (ipHeaderBytes 0 len ttl proto (headerSum len ttl proto source destination)
      source destination ++ rest) := by
  rw [h.buffer, List.append_assoc]

theorem Headed.checksum (h : p.Headed front rest len ttl proto source destination) :
    p.u16 (front.length + 10) = headerSum len ttl proto source destination := by
  rw [u16_append h.append]
  exact host16_toNat (clickInCksum_lt _)

theorem Headed.processIPHeader (h : p.Headed front rest len ttl proto source destination)
    (hsum : headerSum len ttl proto source destination ≠ 0) :
    processIPHeader p = (.ok ⟨source, destination⟩, p) := by
  have hlen : front.length + 20 ≤ p.buffer.length := by
    rw [h.append, List.length_append, List.length_append]
    change _ ≤ front.length + (20 + rest.length)
    omega
  have hversion : p.u8 front.length ≠ 0 := by
    have := u8_append h.append 0
    rw [add_zero] at this
    rw [this]
    change (0x45 : UInt8) ≠ 0
    decide
  have hv : clickInCksum (p.slice front.length 20) = 0 := by
    rw [slice_append h.append]
    exact ipHeaderBytes_verifies 0 len ttl proto source destination
  have hread := processIPHeader_of_verifies hlen hversion hv (by rwa [h.checksum]) h.network
    (by rw [h.checksum]; exact headerSum_ne_all_ones _ _ _ _ _)
  rw [hread]
  simp only [inAddr, add_assoc, u8_append h.append]
  rfl

theorem Headed.processIPHeader_zero (h : p.Headed front rest len ttl proto source destination)
    (hsum : headerSum len ttl proto source destination = 0) :
    MobileIP.processIPHeader p = (.error (.zeroChecksum "IP Header"), p) := by
  simp only [MobileIP.processIPHeader, h.network, h.checksum, hsum, if_true]

end Packet

end MobileIP
