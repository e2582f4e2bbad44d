import MobileIP.Proofs.Decrement
import MobileIP.Proofs.Routers

/-! What the two routers of a tunnel do with a packet: the header of the tunnel is accepted at its
end, and what the home router puts in, the foreign router hands to its link. -/

namespace MobileIP

section Tunnel

variable {h : IPAddress} {p q r : Packet}

theorem Packet.Moved.buildTunnelIPPacket (hm : p.Moved q) (source destination : IPAddress) :
    buildTunnelIPPacket q source destination = buildTunnelIPPacket p source destination := by
  simp only [MobileIP.buildTunnelIPPacket, hm.network, hm.network', Option.getD_some, hm.u8,
    hm.length, hm.bytes]

theorem Packet.Moved.dataPacket (hm : p.Moved q) (hp : DataPacket h p) : DataPacket h q where
  network := hm.network'
  header := hm.u8_zero.trans hp.header
  long := hm.length ▸ hp.long
  short := hm.length ▸ hp.short
  ttl := hm.u8 8 ▸ hp.ttl
  checksum := hm.u16 10 ▸ hp.checksum
  verifies := (congrArg clickInCksum (hm.slice_zero 20)).trans hp.verifies
  destination := (hm.inAddr 16).trans hp.destination

theorem Restored.accepted (hp : DataPacket h p) (hwhole : p.Whole) {ttl : UInt8}
    (hr : Restored p r ttl) (hn : r.networkHeader = some r.data) :
    CheckIPHeader.Accepted r r.data := by
  have hbyte (i : ℕ) (hi : i ∉ [8, 10, 11]) : r.u8 (r.data + i) = p.u8 (p.data + i) := by
    rw [Packet.u8_data, Packet.u8_data, hr.bytes.byte i hi]
  have hheader : r.u8 r.data = 0x45 := (hbyte 0 (by decide)).trans hp.header
  have htotal : r.u16 (r.data + 2) = p.u16 (p.data + 2) := by
    rw [Packet.u16, Packet.u16, hbyte 2 (by decide), add_assoc, hbyte 3 (by decide)]
  have hlength : r.length = p.length := by
    rw [← Packet.length_bytes, hr.bytes.length, Packet.length_bytes]
  have hlong := hp.long
  have hhl : 4 * ((0x45 : UInt8).toNat % 16) = 20 := by decide
  refine ⟨hn, ?_, ?_, ?_, ?_, ?_⟩
  · rw [hheader]
    decide
  · rw [hheader]
    decide
  · rw [hheader, htotal, hwhole.length, hhl]
    exact hlong
  · rw [htotal, hwhole.length, ← hlength]
    rw [← hlength, Packet.length] at hlong
    rw [Packet.length]
    omega
  · rw [hheader, hhl]
    exact hr.verifies

end Tunnel

end MobileIP
