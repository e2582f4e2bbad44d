import MobileIP.Proofs.Checksum
import MobileIP.Proofs.HomeAgent
import MobileIP.Proofs.Node
import MobileIP.Spec.Advertiser
import MobileIP.Spec.Definitions
import MobileIP.Spec.Soliciter
import MobileIP.Spec.Tunnel

/-! Which exceptions of the readers get out of the elements. A packet has come through
`CheckIPHeader`, which adds up the whole header; the reader of IP headers compares the checksum of
the first twenty bytes, and takes a checksum of 0 for a missing one. -/

namespace MobileIP

def Exception.IsThrown : Exception → Prop
  | .undefinedBehaviour _ => False
  | _ => True

theorem Exception.IsChecksum.isThrown {e : Exception} (h : e.IsChecksum) : e.IsThrown := by
  obtain ⟨_, rfl⟩ | ⟨_, rfl⟩ := h.cases
  · trivial
  · trivial

theorem Packet.u8_take_buffer (p : Packet) {i n : ℕ} (hi : i < n) :
    { p with buffer := p.buffer.take n }.u8 i = p.u8 i := by
  simp [Packet.u8, List.getD_eq_getElem?_getD, hi]

structure CheckIPHeader.Accepted (p : Packet) (ip : ℕ) : Prop where
  network : p.networkHeader = some ip
  version : (p.u8 ip).toNat / 16 = 4
  headerLength : 5 ≤ (p.u8 ip).toNat % 16
  header : 4 * ((p.u8 ip).toNat % 16) ≤ ntohs (p.u16 (ip + 2))
  length : ip + ntohs (p.u16 (ip + 2)) ≤ p.buffer.length
  verifies : clickInCksum (p.slice ip (4 * ((p.u8 ip).toNat % 16))) = 0

namespace CheckIPHeader

variable {p p' : Packet} {ip : ℕ}

instance : Decidable (Accepted p ip) :=
  decidable_of_iff (p.networkHeader = some ip ∧ (p.u8 ip).toNat / 16 = 4 ∧
      5 ≤ (p.u8 ip).toNat % 16 ∧ 4 * ((p.u8 ip).toNat % 16) ≤ ntohs (p.u16 (ip + 2)) ∧
      ip + ntohs (p.u16 (ip + 2)) ≤ p.buffer.length ∧
      clickInCksum (p.slice ip (4 * ((p.u8 ip).toNat % 16))) = 0)
    ⟨fun h => ⟨h.1, h.2.1, h.2.2.1, h.2.2.2.1, h.2.2.2.2.1, h.2.2.2.2.2⟩,
      fun h => ⟨h.network, h.version, h.headerLength, h.header, h.length, h.verifies⟩⟩

/-- The options of a header, which only `CheckIPHeader` adds up. -/
def options (p : Packet) (ip : ℕ) : List UInt8 :=
  p.slice (ip + 20) (4 * ((p.u8 ip).toNat % 16) - 20)

theorem Accepted.buffer (h : Accepted p ip) : ip + 20 ≤ p.buffer.length := by
  have hhl := h.headerLength
  have hheader := h.header
  have hlen := h.length
  omega

theorem Accepted.version_ne_zero (h : Accepted p ip) : p.u8 ip ≠ 0 := by
  have hv := h.version
  intro h0
  rw [h0] at hv
  exact absurd hv (by decide)

/-- The first twenty bytes and the options make up for each other. -/
theorem Accepted.sum (h : Accepted p ip) :
    (wordSum (p.slice ip 20) + wordSum (options p ip)) % 65535 = 0 := by
  have hhl := h.headerLength
  have hlen := h.buffer
  have hlength : (p.slice ip 20).length = 20 := by
    simp only [Packet.slice, List.length_take, List.length_drop]
    omega
  have hshort : (p.slice ip (4 * ((p.u8 ip).toNat % 16))).length ≤ 65536 :=
    (p.length_slice_le _ _).trans (by omega)
  have hsum := ((clickInCksum_eq_zero_iff hshort).1 h.verifies).1
  rw [show 4 * ((p.u8 ip).toNat % 16) = 20 + (4 * ((p.u8 ip).toNat % 16) - 20) by omega,
    p.slice_add, wordSum_append (by rw [hlength])] at hsum
  exact hsum

theorem Accepted.take (h : Accepted p ip) {n : ℕ} (hn : ip + ntohs (p.u16 (ip + 2)) ≤ n) :
    Accepted { p with buffer := p.buffer.take n } ip := by
  have hhl := h.headerLength
  have hheader := h.header
  have hu8 : ∀ i < n, { p with buffer := p.buffer.take n }.u8 i = p.u8 i :=
    fun i hi => Packet.u8_take_buffer p hi
  have hfirst : { p with buffer := p.buffer.take n }.u8 ip = p.u8 ip := hu8 ip (by omega)
  have hlen : { p with buffer := p.buffer.take n }.u16 (ip + 2) = p.u16 (ip + 2) := by
    simp only [Packet.u16, hu8 _ (show ip + 2 < n by omega), hu8 _ (show ip + 2 + 1 < n by omega)]
  have hslice : { p with buffer := p.buffer.take n }.slice ip (4 * ((p.u8 ip).toNat % 16)) =
      p.slice ip (4 * ((p.u8 ip).toNat % 16)) := by
    simp only [Packet.slice, List.drop_take, List.take_take]
    rw [min_eq_left (by omega)]
  refine ⟨h.network, ?_, ?_, ?_, ?_, ?_⟩
  · rw [hfirst]
    exact h.version
  · rw [hfirst]
    exact h.headerLength
  · rw [hfirst, hlen]
    exact h.header
  · rw [hlen, List.length_take]
    exact le_min hn h.length
  · rw [hfirst, hslice]
    exact h.verifies

theorem accepted_setIPHeader {offset : ℕ} (hlen : ¬ p.length - offset < 20)
    (hv : ¬ (p.u8 (p.data + offset)).toNat / 16 ≠ 4)
    (hhl : ¬ 4 * ((p.u8 (p.data + offset)).toNat % 16) < 20)
    (hl : ¬ (p.length - offset < ntohs (p.u16 (p.data + offset + 2)) ∨
      ntohs (p.u16 (p.data + offset + 2)) < 4 * ((p.u8 (p.data + offset)).toNat % 16)))
    (hsum : clickInCksum (p.slice (p.data + offset)
      (4 * ((p.u8 (p.data + offset)).toNat % 16))) = 0) (len : ℕ) :
    Accepted (p.setIPHeader (p.data + offset) len) (p.data + offset) := by
  obtain ⟨hle, hheader⟩ := not_or.1 hl
  refine ⟨rfl, not_not.1 hv, ?_, not_lt.1 hheader, ?_, hsum⟩
  · change 5 ≤ (p.u8 (p.data + offset)).toNat % 16
    omega
  · change p.data + offset + ntohs (p.u16 (p.data + offset + 2)) ≤ p.buffer.length
    unfold Packet.length at hle hlen
    omega

theorem accepted_of_simpleAction {c : CheckIPHeader} (hc : c.checksum = true)
    (h : c.simpleAction p = some p') : Accepted p' (p.data + c.offset) := by
  unfold simpleAction at h
  dsimp only at h
  split_ifs at h with hlen hv hhl hl hsum hsrc hlong
  · have hsum' := not_not.1 fun hne => hsum ⟨hc, hne⟩
    obtain rfl := Option.some.inj h
    refine (accepted_setIPHeader hlen hv hhl hl hsum' _).take ?_
    change p.data + c.offset + ntohs (p.u16 (p.data + c.offset + 2)) ≤ p.buffer.length -
      min (p.length - c.offset - ntohs (p.u16 (p.data + c.offset + 2))) p.length
    unfold Packet.length at hlen hlong ⊢
    omega
  · have hsum' := not_not.1 fun hne => hsum ⟨hc, hne⟩
    obtain rfl := Option.some.inj h
    exact accepted_setIPHeader hlen hv hhl hl hsum' _

end CheckIPHeader

theorem MobileIPForeignAgent.push_total (fa : MobileIPForeignAgent) (clock : Clock) (ttl : UInt32)
    (port : ℕ) (p : Packet) : ∃ r, fa.push clock ttl port p = .ok r := by
  unfold push
  split_ifs
  · cases hr : (processRegistrationRequestPacket p).1 with
    | ok registration => exact ⟨_, rfl⟩
    | error e =>
      obtain ⟨_, rfl⟩ | ⟨_, rfl⟩ := (processRegistrationRequestPacket_error hr).cases
      · exact ⟨_, rfl⟩
      · exact ⟨_, rfl⟩
  · cases hr : (processRegistrationReplyPacket p).1 with
    | ok reply => exact ⟨_, rfl⟩
    | error e =>
      obtain ⟨_, rfl⟩ | ⟨_, rfl⟩ := (processRegistrationReplyPacket_error hr).cases
      · exact ⟨_, rfl⟩
      · exact ⟨_, rfl⟩
  · exact ⟨_, rfl⟩

theorem MobileIPHomeAgent.push_total (ha : MobileIPHomeAgent) (clock : Clock) (port : ℕ)
    (p : Packet) : ∃ r, ha.push clock port p = .ok r := by
  rcases step_cases ha (.push clock port p) with ⟨_, _, _, -, heq⟩ | ⟨-, heq⟩ | ⟨_, -, -, heq, -⟩
  · exact ⟨_, heq⟩
  · exact ⟨_, heq⟩
  · exact ⟨_, heq⟩

theorem MobileIPAdvertiser.simpleAction_total (a : MobileIPAdvertiser) (p : Packet) :
    ∃ r, a.simpleAction p = .ok r := by
  unfold simpleAction
  cases hr : (processRouterSolicitationMessage p).1 with
  | ok r => exact ⟨_, rfl⟩
  | error e =>
    obtain ⟨_, rfl⟩ | ⟨_, rfl⟩ := (processRouterSolicitationMessage_error hr).cases
    · exact ⟨_, rfl⟩
    · exact ⟨_, rfl⟩

theorem MobileHost.simpleAction_total (h : MobileHost) (now : ℕ) (ctx : SendContext)
    (unset : UnsetAdvertisement) (p : Packet) : ∃ r, h.simpleAction now ctx unset p = .ok r := by
  unfold simpleAction
  split_ifs
  · exact ⟨_, rfl⟩
  · dsimp only
    cases hr : (processRouterAdvertisementMessage (processEtherHeader p true).2).1 with
    | ok r => exact ⟨_, rfl⟩
    | error e =>
      obtain ⟨_, rfl⟩ | ⟨_, rfl⟩ := (processRouterAdvertisementMessage_error hr).cases
      · exact ⟨_, rfl⟩
      · exact ⟨_, rfl⟩

theorem MobileIPEncapsulator.push_throws_iff {ha : MobileIPHomeAgent} {p : Packet} {e : Exception} :
    MobileIPEncapsulator.push ha p = .error e ↔ (processIPHeader p).1 = .error e := by
  unfold MobileIPEncapsulator.push
  rcases processIPHeader p with ⟨e' | ip, p'⟩
  · simp
  · dsimp only
    split_ifs <;> simp

theorem processIPHeader_zero_iff {p : Packet} {ip : ℕ} (hn : p.networkHeader = some ip) :
    (∃ identifier, (processIPHeader p).1 = .error (.zeroChecksum identifier)) ↔
      p.u16 (ip + 10) = 0 := by
  simp only [processIPHeader, hn]
  split_ifs with hzero
  · exact iff_of_true ⟨_, rfl⟩ hzero
  · exact iff_of_false (by simp) hzero
  · exact iff_of_false (by simp) hzero

/-- The checksum of the UDP header is read first. -/
theorem processRegistrationReplyPacket_zero_iff {p : Packet} {ip : ℕ}
    (hn : p.networkHeader = some ip) :
    (∃ identifier, (processRegistrationReplyPacket p).1 = .error (.zeroChecksum identifier)) ↔
      (∃ udp, processUDPHeader p = .ok udp) ∧ p.u16 (ip + 10) = 0 := by
  rw [← processIPHeader_zero_iff hn]
  unfold processRegistrationReplyPacket
  cases hudp : processUDPHeader p with
  | error e =>
    rw [processUDPHeader_error hudp]
    exact iff_of_false (by simp) (by simp)
  | ok udp =>
    rcases processIPHeader p with ⟨e | header, p'⟩
    · simp
    · simp

namespace MobileIPNode

variable {mn : MobileIPNode} {p : Packet} {ip : ℕ}

theorem push_throws_iff (ctx : SendContext) (hn : p.networkHeader = some ip) :
    (∃ e, mn.push ctx p = .error e ∧ e.IsThrown) ↔
      getPacketType p = .reply ∧ (∃ udp, processUDPHeader p = .ok udp) ∧ p.u16 (ip + 10) = 0 := by
  rw [← processRegistrationReplyPacket_zero_iff hn]
  unfold push
  by_cases hp : getPacketType p = .reply
  · rw [if_neg (not_not.2 hp)]
    cases hr : (processRegistrationReplyPacket p).1 with
    | ok reply =>
      refine iff_of_false ?_ (by simp)
      intro h
      obtain ⟨e, he, ht⟩ := h
      rw [(receiveReply_error he).1] at ht
      exact ht
    | error e =>
      obtain ⟨s, rfl⟩ | ⟨s, rfl⟩ := (processRegistrationReplyPacket_error hr).cases
      · exact iff_of_true ⟨_, rfl, trivial⟩ ⟨hp, s, rfl⟩
      · exact iff_of_false (by simp) (by simp)
  · rw [if_pos hp]
    exact iff_of_false (by simp) fun h => hp h.1

end MobileIPNode

/-- The seven elements, each with its state and what the call finds outside. -/
inductive Element where
  | encapsulator (HA : MobileIPHomeAgent)
  | decapsulator (FA : MobileIPForeignAgent)
  | homeAgent (HA : MobileIPHomeAgent) (clock : Clock) (port : ℕ)
  | foreignAgent (FA : MobileIPForeignAgent) (clock : Clock) (ttl : UInt32) (port : ℕ)
  | node (MN : MobileIPNode) (ctx : SendContext)
  | advertiser (a : MobileIPAdvertiser)
  | soliciter (h : MobileHost) (now : ℕ) (ctx : SendContext) (unset : UnsetAdvertisement)

namespace Element

def Throws (p : Packet) (e : Exception) : Element → Prop
  | encapsulator HA => MobileIPEncapsulator.push HA p = .error e
  | decapsulator FA => .ok (MobileIPDecapsulator.push FA p) = (.error e : Except Exception _)
  | homeAgent HA clock port => HA.push clock port p = .error e
  | foreignAgent FA clock ttl port => FA.push clock ttl port p = .error e
  | node MN ctx => MN.push ctx p = .error e
  | advertiser a => a.simpleAction p = .error e
  | soliciter h now ctx unset => h.simpleAction now ctx unset p = .error e

def Escapes (el : Element) (p : Packet) : Prop := ∃ e, el.Throws p e ∧ e.IsThrown

/-- What keeps the exceptions in, for a packet with an IP header at `ip`: the encapsulator needs a
checksum other than 0 and 65535 and options that add up to nothing, the node a checksum other than 0
for a reply whose UDP header is in order, and the others need nothing. -/
def Contains (p : Packet) (ip : ℕ) : Element → Prop
  | encapsulator _ => p.u16 (ip + 10) ≠ 0 ∧ p.u16 (ip + 10) ≠ 65535 ∧
      wordSum (CheckIPHeader.options p ip) % 65535 = 0
  | node _ _ => ¬ (getPacketType p = .reply ∧ (∃ udp, processUDPHeader p = .ok udp) ∧
      p.u16 (ip + 10) = 0)
  | _ => True

theorem escapes_encapsulator_iff {HA : MobileIPHomeAgent} {p : Packet} :
    (encapsulator HA).Escapes p ↔ ¬ ∃ ip, (processIPHeader p).1 = .ok ip := by
  simp only [Escapes, Throws, MobileIPEncapsulator.push_throws_iff]
  cases hip : (processIPHeader p).1 with
  | error e => exact iff_of_true ⟨e, rfl, (processIPHeader_error hip).isThrown⟩ (by simp)
  | ok ip => exact iff_of_false (by simp) (by simp)

theorem not_escapes {p : Packet} {el : Element} (h : ∀ e, ¬ el.Throws p e) : ¬ el.Escapes p := by
  intro hesc
  obtain ⟨e, he, -⟩ := hesc
  exact h e he

/-- Of a packet that `CheckIPHeader` has accepted, no exception escapes exactly under these
conditions. -/
theorem nothing_escapes_iff (el : Element) {p : Packet} {ip : ℕ}
    (h : CheckIPHeader.Accepted p ip) : ¬ el.Escapes p ↔ el.Contains p ip := by
  cases el with
  | encapsulator HA =>
    have hsum := h.sum
    rw [escapes_encapsulator_iff, not_not,
      processIPHeader_ok_iff h.buffer h.version_ne_zero h.network, Contains]
    refine and_congr Iff.rfl (and_congr Iff.rfl ?_)
    omega
  | decapsulator FA => exact iff_of_true (not_escapes fun e he => nomatch he) trivial
  | homeAgent HA clock port =>
    obtain ⟨r, hr⟩ := HA.push_total clock port p
    exact iff_of_true (not_escapes fun e he => nomatch hr.symm.trans he) trivial
  | foreignAgent FA clock ttl port =>
    obtain ⟨r, hr⟩ := FA.push_total clock ttl port p
    exact iff_of_true (not_escapes fun e he => nomatch hr.symm.trans he) trivial
  | node MN ctx => exact not_congr (MN.push_throws_iff ctx h.network)
  | advertiser a =>
    obtain ⟨r, hr⟩ := a.simpleAction_total p
    exact iff_of_true (not_escapes fun e he => nomatch hr.symm.trans he) trivial
  | soliciter host now ctx unset =>
    obtain ⟨r, hr⟩ := host.simpleAction_total now ctx unset p
    exact iff_of_true (not_escapes fun e he => nomatch hr.symm.trans he) trivial

section Examples

open Definitions

theorem dataPacket_accepted : CheckIPHeader.Accepted (dataPacket 0 32503) 0 :=
  CheckIPHeader.accepted_of_simpleAction (p := dataPacket 0 32503) (c := {}) rfl (by decide +kernel)

theorem dataPacket_zero_accepted : CheckIPHeader.Accepted (dataPacket 63358 0) 0 :=
  CheckIPHeader.accepted_of_simpleAction (p := dataPacket 63358 0) (c := {}) rfl (by decide +kernel)

theorem nothing_escapes_data_packet :
    ¬ (encapsulator Definitions.homeAgent).Escapes (dataPacket 0 32503) :=
  (nothing_escapes_iff _ dataPacket_accepted).2
    ⟨by decide +kernel, by decide +kernel, by decide +kernel⟩

/-- The home agent stops on a packet with the checksum 0, which is the right one for it. -/
theorem zero_checksum_escapes :
    ¬ ∀ (el : Element) (p : Packet) (ip : ℕ), CheckIPHeader.Accepted p ip → ¬ el.Escapes p := by
  intro hall
  have hthrows : MobileIPEncapsulator.push Definitions.homeAgent (dataPacket 63358 0) =
      .error (.zeroChecksum "IP Header") := by
    decide +kernel
  exact hall (encapsulator Definitions.homeAgent) _ _ dataPacket_zero_accepted ⟨_, hthrows, trivial⟩

end Examples

end Element

end MobileIP
