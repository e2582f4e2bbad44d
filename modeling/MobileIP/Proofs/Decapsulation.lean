import MobileIP.Proofs.Exceptions
import MobileIP.Proofs.Tunnel

/-! The tunnel for packets of any kind: with any time to live, any payload, and with options in
either header. -/

namespace MobileIP

/-- An IPv4 packet with a header of 20 bytes that fits into a tunnel. -/
structure PlainPacket (p : Packet) : Prop where
  network : p.networkHeader = some p.data
  header : p.u8 p.data = 0x45
  long : 20 ≤ p.length
  short : p.length ≤ 65515

theorem PlainPacket.version {p : Packet} (hp : PlainPacket p) : p.u8 p.data ≠ 0 := by
  rw [hp.header]
  decide

/-- What is put in a tunnel has a header of its own, and comes out of it again with its time to live
decreased by one. -/
theorem tunnel_round_trip {p : Packet} (hp : PlainPacket p) (source destination : IPAddress) :
    let q := buildTunnelIPPacket p source destination
    let r := processTunnelIPPacket q true
    (q.networkHeader = some q.data ∧ q.u8 q.data = 0x45 ∧ clickInCksum (q.slice q.data 20) = 0 ∧
      q.u8 (q.data + 9) = 4 ∧ q.length = 20 + p.length ∧
      ntohs (q.u16 (q.data + 2)) = 20 + p.length ∧ q.inAddr (q.data + 12) = source ∧
      q.inAddr (q.data + 16) = destination ∧ q.u8 (q.data + 1) = p.u8 (p.data + 1)) ∧
    (r.1.source = source ∧ r.1.destination = destination ∧
      r.1.originalIP = ⟨p.inAddr (p.data + 12), p.inAddr (p.data + 16)⟩) ∧
    AgreeExcept [8, 10, 11] p.bytes r.2.bytes ∧
    r.2.u8 (r.2.data + 8) = p.u8 (p.data + 8) - 1 ∧
    clickInCksum (r.2.slice r.2.data 20) = 0 ∧ r.2.networkHeader = some r.2.data := by
  intro q r
  have htos : q.u8 (q.data + 1) = p.u8 (p.data + 1) := by
    change p.u8 (p.networkHeader.getD 0 + 1) = _
    rw [hp.network]
    rfl
  obtain ⟨hinner, hbytes, hrestored, hverifies⟩ :=
    processTunnelIPPacket_restores (q := q) rfl hp.long hp.version
  refine ⟨⟨rfl, rfl, ipHeaderBytes_verifies _ _ _ _ _ _, rfl, ?_, ?_, rfl, rfl, htos⟩,
    ⟨rfl, rfl, hinner⟩, hbytes, ?_, hverifies, rfl⟩
  · exact buildTunnelIPPacket_length p source destination
  · exact buildTunnelIPPacket_totalLength hp.short source destination
  · exact hrestored.trans (buildTunnelIPPacket_ttl hp.network source destination)

section Examples

open Definitions

theorem tunnel_round_trip_first :
    (processTunnelIPPacket (buildTunnelIPPacket (dataPacket 0 32503) homeAgentPublicAddress
      foreignAgentPublicAddress) true).1.originalIP =
        ⟨correspondingNodeAddress, mobileNodeAddress⟩ :=
  (tunnel_round_trip (p := dataPacket 0 32503) ⟨rfl, rfl, by decide, by decide⟩
    homeAgentPublicAddress foreignAgentPublicAddress).2.1.2.2

end Examples

def DecIPTTL.hops : ℕ → Packet → Option Packet
  | 0, p => some p
  | n + 1, p => (simpleAction {} p).bind (hops n)

structure OnTheWay (q q' : Packet) : Prop where
  data : q'.data = q.data
  network : q'.networkHeader = q.networkHeader
  bytes : AgreeExcept [8, 10, 11] q.bytes q'.bytes
  ttl : (q'.u8 (q'.data + 8)).toNat ≤ (q.u8 (q.data + 8)).toNat

theorem OnTheWay.refl (q : Packet) : OnTheWay q q := ⟨rfl, rfl, ⟨rfl, fun _ _ => rfl⟩, le_rfl⟩

theorem OnTheWay.trans {q q' q'' : Packet} (h : OnTheWay q q') (h' : OnTheWay q' q'') :
    OnTheWay q q'' where
  data := h'.data.trans h.data
  network := h'.network.trans h.network
  bytes := ⟨h'.bytes.length.trans h.bytes.length,
    fun i hi => (h'.bytes.byte i hi).trans (h.bytes.byte i hi)⟩
  ttl := h'.ttl.trans h.ttl

theorem DecIPTTL.simpleAction_some {q q' : Packet} {ip : ℕ} (hn : q.networkHeader = some ip)
    (h : simpleAction {} q = some q') : 1 < (q.u8 (ip + 8)).toNat ∧
      ∃ sum, q' = (q.setU8 (ip + 8) (q.u8 (ip + 8) - 1)).setU16 (ip + 10) sum := by
  have hactive : ¬ ({} : DecIPTTL).active = false := by decide
  have hmulticast : ¬ (({} : DecIPTTL).multicast = false ∧
      (q.inAddr (ip + 16)).isMulticast = true) := fun hm => absurd hm.1 (by decide)
  simp only [simpleAction, hn, if_neg hactive, if_neg hmulticast] at h
  by_cases httl : q.u8 (ip + 8) ≤ 1
  · rw [if_pos httl] at h
    cases h
  · rw [if_neg httl] at h
    refine ⟨?_, _, (Option.some.inj h).symm⟩
    rw [UInt8.le_iff_toNat_le] at httl
    exact not_le.1 httl

theorem simpleAction_onTheWay {q q' : Packet} (hn : q.networkHeader = some q.data)
    (h : DecIPTTL.simpleAction {} q = some q') : OnTheWay q q' := by
  obtain ⟨httl, sum, rfl⟩ := DecIPTTL.simpleAction_some hn h
  have hbytes : ((q.setU8 (q.data + 8) (q.u8 (q.data + 8) - 1)).setU16 (q.data + 10) sum).bytes =
      setWord (q.bytes.set 8 (q.u8 (q.data + 8) - 1)) 10 sum := by
    rw [← q.bytes_setU8, ← Packet.bytes_setU16]
    rfl
  have hlong : 8 < q.bytes.length := by
    by_contra hshort
    rw [q.u8_data, List.getD_eq_default _ _ (not_lt.1 hshort)] at httl
    exact absurd httl (by decide)
  refine ⟨rfl, rfl, ?_, ?_⟩
  · rw [hbytes]
    exact agreeExcept_rewritten _ _ _
  · have hne : q.u8 (q.data + 8) ≠ 0 := by
      intro h0
      rw [h0] at httl
      exact absurd httl (by decide)
    rw [Packet.u8_data, hbytes, ttl_rewritten hlong, ← toNat_ttl_pred hne]
    exact Nat.le_succ _

theorem hops_onTheWay {n : ℕ} {q q' : Packet} (hn : q.networkHeader = some q.data)
    (h : DecIPTTL.hops n q = some q') : OnTheWay q q' := by
  induction n generalizing q with
  | zero =>
    obtain rfl := Option.some.inj h
    exact .refl q
  | succ n ih =>
    obtain ⟨q₁, hstep, hrest⟩ := Option.bind_eq_some_iff.1 h
    have hfirst := simpleAction_onTheWay hn hstep
    exact hfirst.trans (ih (by rw [hfirst.network, hfirst.data, hn]) hrest)

/-- The packet `r` comes out of the tunnel that `p` was put in, after `n` routers. -/
def ComesOut (HA : MobileIPHomeAgent) (FA : MobileIPForeignAgent) (n : ℕ) (p r : Packet) : Prop :=
  ∃ q q' output, MobileIPEncapsulator.push HA p = .ok [(1, q)] ∧ DecIPTTL.hops n q = some q' ∧
    (output, r) ∈ MobileIPDecapsulator.push FA q'

section TimeToLive

variable {p q : Packet} {HA : MobileIPHomeAgent} {FA : MobileIPForeignAgent}

theorem encapsulator_tunnels (hn : p.networkHeader = some p.data)
    (h : MobileIPEncapsulator.push HA p = .ok [(1, q)]) :
    (∃ ip, (processIPHeader p).1 = .ok ip) ∧
      ∃ destination, q = buildTunnelIPPacket p HA.publicAddress destination := by
  rcases hr : processIPHeader p with ⟨e | ip, p'⟩
  · simp only [MobileIPEncapsulator.push, hr] at h
    cases h
  · obtain ⟨-, rfl⟩ := processIPHeader_ok hn hr
    simp only [MobileIPEncapsulator.push, hr] at h
    split_ifs at h
    · cases h
      exact ⟨⟨ip, rfl⟩, _, rfl⟩
    · cases h

theorem OnTheWay.decapsulated {source destination : IPAddress} {output : ℕ} {q' r : Packet}
    (hway : OnTheWay (buildTunnelIPPacket p source destination) q')
    (hr : (output, r) ∈ MobileIPDecapsulator.push FA q') :
    r = (processTunnelIPPacket q' true).2 := by
  have hproto : q'.u8 (q'.data + 9) = 4 := by
    rw [q'.u8_data, hway.bytes.byte 9 (by decide)]
    rfl
  have hnetwork : q'.networkHeader = some q'.data := by
    rw [hway.network, hway.data]
    rfl
  have htype := Packet.getPacketType_ipinip hnetwork hproto
  simp only [MobileIPDecapsulator.push, htype, if_true] at hr
  split_ifs at hr
  · obtain ⟨-, rfl⟩ := Prod.mk.inj (List.mem_singleton.1 hr)
    rfl
  · cases hr

theorem OnTheWay.restores (hp : CheckIPHeader.Accepted p p.data) {source destination : IPAddress}
    {q' : Packet} (hway : OnTheWay (buildTunnelIPPacket p source destination) q') :
    (processTunnelIPPacket q' true).1.originalIP =
        ⟨p.inAddr (p.data + 12), p.inAddr (p.data + 16)⟩ ∧
      Restored p (processTunnelIPPacket q' true).2 (q'.u8 (q'.data + 8)) := by
  have hlong : 20 ≤ p.length := by
    have := hp.buffer
    rw [Packet.length]
    omega
  refine processTunnelIPPacket_restores ?_ hlong hp.version_ne_zero
  rw [hway.bytes.drop_eq (by simp)]
  rfl

/-- A packet with no time left that the encapsulator reads comes out of some tunnel with the time
255: it wraps around on the way in. -/
theorem comesOut_of_zero (hp : CheckIPHeader.Accepted p p.data) (h0 : p.u8 (p.data + 8) = 0)
    {ip : IPHeader} (hread : (processIPHeader p).1 = .ok ip) :
    ∃ HA FA r, ComesOut HA FA 0 p r ∧ r.u8 (r.data + 8) = 255 := by
  rcases hr : processIPHeader p with ⟨res, p'⟩
  rw [hr] at hread
  obtain rfl : res = .ok ip := hread
  obtain ⟨hip, hsame⟩ := processIPHeader_ok hp.network hr
  rw [hsame] at hr
  -- the node is bound at the home agent and visits the foreign agent
  let HA : MobileIPHomeAgent :=
    { publicAddress := .zero, privateAddress := .zero,
      mobilityBindings := [⟨ip.destination, .zero, 1⟩] }
  let FA : MobileIPForeignAgent :=
    { publicAddress := .zero, privateAddress := .zero,
      visitors := [⟨ip.destination, 0, .zero, 1, 1⟩] }
  let q := buildTunnelIPPacket p .zero .zero
  obtain ⟨hinner, hrestored⟩ := (OnTheWay.refl q).restores hp
  have hpush : MobileIPEncapsulator.push HA p = .ok [(1, q)] := by
    simp only [MobileIPEncapsulator.push, hr, HA, MobilityBindingList.isMobileBinded,
      MobilityBindingList.getCareOfAddress, if_true]
    rfl
  have htype : getPacketType q = .ipinip := rfl
  have hvisitor : VisitorList.has ip.destination .zero FA.visitors = true := by
    simp only [FA, VisitorList.has, and_self, if_true]
  have hout : MobileIPDecapsulator.push FA q = [(1, (processTunnelIPPacket q true).2)] := by
    have hsource : (processTunnelIPPacket q true).1.source = .zero := rfl
    rw [hip] at hvisitor
    simp only [MobileIPDecapsulator.push, htype, if_true, hsource, hinner, hvisitor]
  refine ⟨HA, FA, (processTunnelIPPacket q true).2, ⟨q, q, 1, hpush, rfl, ?_⟩, ?_⟩
  · rw [hout]
    exact List.mem_singleton_self _
  · rw [hrestored.ttl]
    change q.u8 8 = 255
    rw [buildTunnelIPPacket_ttl hp.network, h0]
    rfl

end TimeToLive

/-- Whatever comes out of a tunnel has less time to live than it had on going in, exactly if it had
any, or if the encapsulator does not read it at all. -/
theorem ttl_decreases_iff {p : Packet} (hp : CheckIPHeader.Accepted p p.data) :
    (∀ HA FA n r, ComesOut HA FA n p r → r.u8 (r.data + 8) < p.u8 (p.data + 8)) ↔
      p.u8 (p.data + 8) ≠ 0 ∨ p.u16 (p.data + 10) = 0 ∨ p.u16 (p.data + 10) = 65535 ∨
        wordSum (p.slice p.data 20) % 65535 ≠ 0 := by
  have hread := processIPHeader_ok_iff hp.buffer hp.version_ne_zero hp.network
  constructor
  · intro h
    by_contra hbad
    simp only [not_or, not_not] at hbad
    obtain ⟨h0, hsum⟩ := hbad
    obtain ⟨ip, hip⟩ := hread.2 hsum
    obtain ⟨HA, FA, r, hout, httl⟩ := comesOut_of_zero hp h0 hip
    have hlt := h HA FA 0 r hout
    rw [httl, h0] at hlt
    exact absurd hlt (by decide)
  · intro h HA FA n r hout
    obtain ⟨q, q', output, hpush, hhops, hr⟩ := hout
    obtain ⟨hreads, destination, rfl⟩ := encapsulator_tunnels hp.network hpush
    have h0 : p.u8 (p.data + 8) ≠ 0 := by
      rcases h with h0 | hsum
      · exact h0
      · obtain ⟨hzero, hones, hverifies⟩ := hread.1 hreads
        rcases hsum with h | h | h
        · exact absurd h hzero
        · exact absurd h hones
        · exact absurd hverifies h
    have hway := hops_onTheWay rfl hhops
    have hle : _ ≤ ((buildTunnelIPPacket p HA.publicAddress destination).u8 8).toNat := hway.ttl
    have hpred := toNat_ttl_pred h0
    rw [buildTunnelIPPacket_ttl hp.network] at hle
    rw [hway.decapsulated hr, (hway.restores hp).2.ttl, UInt8.lt_iff_toNat_lt]
    omega

section Examples

open Definitions

theorem ttl_decreases_first :
    ∃ r, ComesOut
        { homeAgent with mobilityBindings := [⟨mobileNodeAddress, foreignAgentPublicAddress, 100⟩] }
        { foreignAgent with
          visitors := [⟨mobileNodeAddress, 5241, homeAgentPublicAddress, 100, 100⟩] }
        1 (dataPacket 0 32503) r ∧ r.u8 (r.data + 8) < 64 := by
  let q := buildTunnelIPPacket (dataPacket 0 32503) homeAgentPublicAddress foreignAgentPublicAddress
  let q' := ((DecIPTTL.simpleAction {} q).getD q)
  have hout : ComesOut
      { homeAgent with mobilityBindings := [⟨mobileNodeAddress, foreignAgentPublicAddress, 100⟩] }
      { foreignAgent with
        visitors := [⟨mobileNodeAddress, 5241, homeAgentPublicAddress, 100, 100⟩] }
      1 (dataPacket 0 32503) (processTunnelIPPacket q' true).2 :=
    ⟨q, q', 1, by decide +kernel, by decide +kernel, by decide +kernel⟩
  exact ⟨_, hout,
    (ttl_decreases_iff Element.dataPacket_accepted).2 (Or.inl (by decide)) _ _ _ _ hout⟩

def expiredPacket : Packet := (dataPacket 0 32567).setU8 8 0

/-- A packet that must not be forwarded any more has 255 hops left on coming out. -/
theorem expired_packet_revived :
    ¬ ∀ p, CheckIPHeader.Accepted p p.data → ∀ HA FA n r, ComesOut HA FA n p r →
      r.u8 (r.data + 8) < p.u8 (p.data + 8) := by
  intro h
  have hp : CheckIPHeader.Accepted expiredPacket 0 :=
    CheckIPHeader.accepted_of_simpleAction (p := expiredPacket) (c := {}) rfl (by decide +kernel)
  have hread : (processIPHeader expiredPacket).1 =
      .ok ⟨correspondingNodeAddress, mobileNodeAddress⟩ := by decide +kernel
  obtain ⟨HA, FA, r, hout, httl⟩ := comesOut_of_zero hp rfl hread
  have hlt := h expiredPacket hp HA FA 0 r hout
  rw [httl] at hlt
  exact absurd hlt (by decide)

end Examples

def innerPacket (q : Packet) : Packet :=
  let ip := q.data + 4 * ((q.u8 q.data).toNat % 16)
  { q with
    data := ip
    networkHeader := some ip
    transportHeader := ip + 4 * ((q.u8 ip).toNat % 16) }

/-- Only the time to live and the checksum of the inner packet are changed, and the checksum fits
the whole of its header. -/
structure Preserves (q : Packet) : Prop where
  bytes : AgreeExcept [8, 10, 11] (innerPacket q).bytes (processTunnelIPPacket q true).2.bytes
  verifies : clickInCksum ((processTunnelIPPacket q true).2.slice
    (processTunnelIPPacket q true).2.data
    (4 * (((innerPacket q).u8 (innerPacket q).data).toNat % 16))) = 0

theorem innerPacket_bytes (q : Packet) :
    (innerPacket q).bytes = q.bytes.drop (4 * ((q.u8 q.data).toNat % 16)) := by
  simp only [innerPacket, Packet.bytes, List.drop_drop]

theorem wordSum_header {l : List UInt8} (hl : 20 ≤ l.length) (n : ℕ) :
    wordSum (l.take (20 + n)) = wordSum (l.take 20) + wordSum ((l.drop 20).take n) := by
  rw [List.take_add, wordSum_append]
  simp [hl]

/-- The options of the inner packet are not touched, and its first twenty bytes add up to a multiple
of 65535 by themselves. -/
theorem verifies_iff_options {l l' : List UInt8} (h : AgreeExcept [8, 10, 11] l l')
    (hl : 20 ≤ l.length) {n : ℕ} (hn : n ≤ 40) (hverifies : clickInCksum (l'.take 20) = 0) :
    clickInCksum (l'.take (20 + n)) = 0 ↔ wordSum ((l.drop 20).take n) % 65535 = 0 := by
  have hshort : ∀ m ≤ 60, (l'.take m).length ≤ 65536 := by
    intro m hm
    rw [List.length_take]
    omega
  have hfirst := (clickInCksum_eq_zero_iff (hshort 20 (by decide))).1 hverifies
  rw [clickInCksum_eq_zero_iff (hshort (20 + n) (by omega)),
    wordSum_header (by rw [h.length]; exact hl), h.drop_eq (by simp)]
  omega

/-- Decapsulation preserves the inner packet exactly if there are no options in the outer header,
and those in the inner one do not count in its checksum. -/
theorem decapsulation_preserves_iff {q : Packet} (hq : CheckIPHeader.Accepted q q.data)
    (hinner : CheckIPHeader.Accepted (innerPacket q) (innerPacket q).data) :
    Preserves q ↔ (q.u8 q.data).toNat % 16 = 5 ∧
      wordSum (CheckIPHeader.options (innerPacket q) (innerPacket q).data) % 65535 = 0 := by
  have hlong : 20 ≤ (innerPacket q).bytes.length := by
    have := hinner.buffer
    rw [Packet.length_bytes, Packet.length]
    omega
  by_cases hhl : (q.u8 q.data).toNat % 16 = 5
  · have hdrop : q.bytes.drop 20 = (innerPacket q).bytes := by
      rw [innerPacket_bytes, hhl]
    have hversion : (innerPacket q).bytes.getD 0 0 ≠ 0 := by
      rw [← Packet.u8_data, add_zero]
      exact hinner.version_ne_zero
    obtain ⟨hagree, -, hverifies⟩ := processTunnelIPPacket_rewrites hdrop hlong hversion
    obtain ⟨n, hn⟩ : ∃ n, 4 * (((innerPacket q).u8 (innerPacket q).data).toNat % 16) = 20 + n :=
      ⟨_, (Nat.add_sub_of_le (by have := hinner.headerLength; omega)).symm⟩
    have hoptions : CheckIPHeader.options (innerPacket q) (innerPacket q).data =
        ((innerPacket q).bytes.drop 20).take n := by
      rw [CheckIPHeader.options, hn, Nat.add_sub_cancel_left, Packet.slice, Packet.bytes,
        List.drop_drop]
    have hiff := verifies_iff_options hagree hlong (show n ≤ 40 by omega) hverifies
    rw [hoptions, ← hiff, ← hn]
    exact ⟨fun h => ⟨hhl, h.verifies⟩, fun h => ⟨hagree, h.2⟩⟩
  · -- the outer options are left in front of the inner packet
    refine iff_of_false ?_ fun h => hhl h.1
    intro h
    have hlength := h.bytes.length
    have houter : 4 * ((q.u8 q.data).toNat % 16) ≤ q.length := by
      have := hq.header
      have := hq.length
      rw [Packet.length]
      omega
    have hmin := hq.headerLength
    rw [processTunnelIPPacket_bytes (by omega), innerPacket_bytes, length_setWord, List.length_set,
      List.length_drop, List.length_drop, Packet.length_bytes] at hlength
    omega

section Examples

open Definitions

theorem decapsulation_preserves_first :
    Preserves (buildTunnelIPPacket (dataPacket 0 32503) homeAgentPublicAddress
      foreignAgentPublicAddress) := by
  apply (decapsulation_preserves_iff (by decide +kernel) (by decide +kernel)).2
  decide +kernel

/-- A packet of the corresponding node with four bytes of options, of which three are padding. -/
def optionPacket : Packet where
  buffer := [0x46, 0] ++ net16 32 ++ [0, 0, 0, 0, 64, 17] ++ host16 31220 ++
    correspondingNodeAddress.bytes ++ mobileNodeAddress.bytes ++ [1, 1, 1, 0] ++ List.replicate 8 0
  data := 0
  networkHeader := some 0
  transportHeader := 24

/-- A header with options does not verify any more when it comes out of the tunnel. -/
theorem options_not_preserved :
    ¬ ∀ q, CheckIPHeader.Accepted q q.data → q.u8 (q.data + 9) = 4 →
      CheckIPHeader.Accepted (innerPacket q) (innerPacket q).data → Preserves q := by
  intro h
  have hverifies := (h (buildTunnelIPPacket optionPacket homeAgentPublicAddress
    foreignAgentPublicAddress) (by decide +kernel) rfl (by decide +kernel)).verifies
  revert hverifies
  decide +kernel

end Examples

end MobileIP
