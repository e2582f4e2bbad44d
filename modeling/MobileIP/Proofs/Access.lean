import MobileIP.Proofs.HeaderLength
import MobileIP.Spec.Access

/-! Which bytes the readers read, and how long a packet has to be for that. -/

namespace MobileIP

namespace Access

open Logged

variable (p : Packet)

theorem value_sourceRoute (endOpt fuel opt : ℕ) :
    (sourceRoute p endOpt fuel opt).value = MobileIP.sourceRoute p endOpt fuel opt := by
  induction fuel generalizing opt with
  | zero => rfl
  | succ fuel ih =>
    simp only [sourceRoute, MobileIP.sourceRoute, value_ite, value_bind, value_pure, ih]
    split_ifs <;> first | rfl | omega

theorem value_clickInCksumPseudohdr (csum iph packetLen : ℕ) :
    (clickInCksumPseudohdr csum p iph packetLen).value =
      MobileIP.clickInCksumPseudohdr csum p iph packetLen := by
  simp only [clickInCksumPseudohdr, MobileIP.clickInCksumPseudohdr, value_bind, value_ite,
    value_pure, value_sourceRoute]
  split_ifs with hl
  · rfl
  · cases MobileIP.sourceRoute p (iph + 4 * ((p.u8 iph).toNat % 16))
      (4 * ((p.u8 iph).toNat % 16)) (iph + 20) with
    | none => rfl
    | some daddr => rfl

theorem value_getPacketType : (getPacketType p).value = MobileIP.getPacketType p := by
  simp only [getPacketType, MobileIP.getPacketType, value_bind]
  cases p.networkHeader with
  | none => rfl
  | some ip =>
    simp only [value_bind, value_ite, value_pure, decide_eq_true_eq, Bool.false_eq_true, if_false,
      ite_and]

theorem value_processUDPHeader : (processUDPHeader p).value = MobileIP.processUDPHeader p := by
  unfold processUDPHeader MobileIP.processUDPHeader
  cases p.networkHeader with
  | none => rfl
  | some ip => simp only [value_bind, value_ite, value_pure, value_clickInCksumPseudohdr]

theorem value_processIPHeader : (processIPHeader p).value = MobileIP.processIPHeader p := by
  unfold processIPHeader MobileIP.processIPHeader
  cases p.networkHeader with
  | none => rfl
  | some format => simp only [value_bind, value_ite, value_pure]

theorem value_processTunnelIPPacket (stripIPHeader : Bool) :
    (processTunnelIPPacket p stripIPHeader).value =
      MobileIP.processTunnelIPPacket p stripIPHeader := by
  simp only [processTunnelIPPacket, MobileIP.processTunnelIPPacket, value_bind, value_ite,
    value_pure]

theorem value_processRouterSolicitationMessage :
    (processRouterSolicitationMessage p).value = MobileIP.processRouterSolicitationMessage p := by
  simp only [processRouterSolicitationMessage, MobileIP.processRouterSolicitationMessage, value_bind,
    value_ite, value_pure, value_processIPHeader]
  rcases MobileIP.processIPHeader _ with ⟨e | ip, p'⟩
  · rfl
  · rfl

theorem value_processRegistrationRequestPacket :
    (processRegistrationRequestPacket p).value = MobileIP.processRegistrationRequestPacket p := by
  simp only [processRegistrationRequestPacket, MobileIP.processRegistrationRequestPacket, value_bind,
    value_processUDPHeader]
  rcases MobileIP.processUDPHeader p with e | udp
  · rfl
  · simp only [value_bind, value_processIPHeader]
    rcases MobileIP.processIPHeader p with ⟨e | ip, p'⟩
    · rfl
    · rfl

theorem value_processRegistrationReplyPacket :
    (processRegistrationReplyPacket p).value = MobileIP.processRegistrationReplyPacket p := by
  simp only [processRegistrationReplyPacket, MobileIP.processRegistrationReplyPacket, value_bind,
    value_processUDPHeader]
  rcases MobileIP.processUDPHeader p with e | udp
  · rfl
  · simp only [value_bind, value_processIPHeader]
    rcases MobileIP.processIPHeader p with ⟨e | ip, p'⟩
    · rfl
    · rfl

end Access

namespace Packet

variable (p : Packet) (i n : ℕ)

@[simp]
theorem within_readU8 : Logged.Within (· < n) (p.readU8 i) ↔ i < n := by
  simp [Logged.Within]

@[simp]
theorem within_readU16 : Logged.Within (· < n) (p.readU16 i) ↔ i + 1 < n := by
  simp only [Logged.Within, List.mem_cons, List.not_mem_nil, or_false, forall_eq_or_imp, forall_eq]
  omega

@[simp]
theorem within_readInAddr : Logged.Within (· < n) (p.readInAddr i) ↔ i + 3 < n := by
  simp only [Logged.Within, List.mem_cons, List.not_mem_nil, or_false, forall_eq_or_imp, forall_eq]
  omega

@[simp]
theorem within_readNtohl : Logged.Within (· < n) (p.readNtohl i) ↔ i + 3 < n := by
  simp only [Logged.Within, List.mem_cons, List.not_mem_nil, or_false, forall_eq_or_imp, forall_eq]
  omega

theorem within_readCksum {i n : ℕ} (len : ℕ) (hi : i ≤ n) :
    Logged.Within (· < n) (p.readCksum i len) ↔ i + len ≤ n := by
  simp only [Logged.Within, List.mem_range'_1]
  constructor
  · intro h
    by_contra hlt
    have hlast := h (i + len - 1) ⟨by omega, by omega⟩
    omega
  · intro h j hj
    omega

end Packet

structure Checked (p : Packet) : Prop where
  accepted : CheckIPHeader.Accepted p p.data
  transport : p.transportHeader = p.data + headerLength p

theorem headerLength_take {p : Packet} {k : ℕ} (h : CheckIPHeader.Accepted (p.take k) p.data) :
    headerLength (p.take k) = headerLength p := by
  have hbuffer := h.buffer
  have hle : (p.take k).buffer.length ≤ p.buffer.length - min k p.length := List.length_take_le _ _
  have hfirst := p.u8_take_buffer (show p.data < p.buffer.length - min k p.length by omega)
  exact congrArg (fun b : UInt8 => 4 * (b.toNat % 16)) hfirst

theorem checked_of_simpleAction {c : CheckIPHeader} {p p' : Packet} (hc : c.checksum = true)
    (hoffset : c.offset = 0) (h : c.simpleAction p = some p') : Checked p' := by
  have haccepted := CheckIPHeader.accepted_of_simpleAction hc h
  unfold CheckIPHeader.simpleAction at h
  dsimp only at h
  rw [hoffset, add_zero] at h haccepted
  split_ifs at h
  · cases h
    refine ⟨haccepted, ?_⟩
    rw [headerLength_take haccepted]
    rfl
  · cases h
    exact ⟨haccepted, rfl⟩

theorem Checked.buffer {p : Packet} (h : Checked p) : p.buffer.length = p.data + p.length := by
  have := h.accepted.buffer
  unfold Packet.length
  omega

theorem Checked.header {p : Packet} (h : Checked p) :
    20 ≤ headerLength p ∧ headerLength p ≤ p.length := by
  have hlen := h.accepted.headerLength
  have hheader := h.accepted.header
  have hlength := h.accepted.length
  have hbuffer := h.buffer
  unfold headerLength
  omega

/-- The datagram is as long as its header says, if it has a checksum. -/
def DatagramFits (p : Packet) : Prop :=
  p.u16 (p.data + 26) = 0 ∨ headerLength p + ntohs (p.u16 (p.data + 24)) ≤ p.length

namespace Access

open Logged

variable {p : Packet}

theorem within_sourceRoute {n endOpt : ℕ} (hend : endOpt ≤ n) (fuel opt : ℕ) :
    Within (· < n) (sourceRoute p endOpt fuel opt) := by
  induction fuel generalizing opt with
  | zero => exact within_pure _
  | succ fuel ih =>
    simp only [sourceRoute, within_ite, within_bind, within_pure, Packet.within_readU8,
      Packet.within_readInAddr, ih, implies_true, and_true, true_and]
    intro hopt
    refine ⟨by omega, fun _ _ hlen => ⟨by omega, fun hfits _ => ?_⟩⟩
    omega

theorem within_clickInCksumPseudohdr (h : Checked p) (csum packetLen : ℕ) :
    Within (· < p.buffer.length) (clickInCksumPseudohdr csum p p.data packetLen) := by
  have hheader := h.header
  have hbuffer := h.buffer
  have hend : p.data + 4 * ((p.u8 p.data).toNat % 16) ≤ p.buffer.length := by
    unfold headerLength at hheader
    omega
  simp only [clickInCksumPseudohdr, within_bind, within_ite, within_pure, Packet.within_readU8,
    Packet.within_readInAddr, within_sourceRoute hend]
  refine ⟨by omega, fun _ => ⟨trivial, by omega, ?_⟩, fun _ => ⟨trivial, by omega, ?_⟩⟩
  · simp only [value_pure, within_bind, within_pure, Packet.within_readU8, Packet.within_readInAddr,
      and_true]
    omega
  · split
    · simp only [within_bind, within_pure, Packet.within_readU8, and_true, true_and]
      omega
    · simp only [within_bind, within_pure, Packet.within_readU8, Packet.within_readInAddr, and_true]
      omega

theorem within_processIPHeader (h : Checked p) :
    Within (· < p.buffer.length) (processIPHeader p) := by
  have hbuffer := h.accepted.buffer
  simp only [processIPHeader, h.accepted.network, within_bind, within_ite, within_pure,
    Packet.within_readU16, Packet.within_readInAddr, implies_true, and_true]
  refine ⟨by omega, by omega, by omega, trivial, fun _ => ?_⟩
  exact (Packet.within_readCksum _ 20 (by omega)).2 hbuffer

theorem within_processUDPHeader_iff (h : Checked p) (hproto : p.u8 (p.data + 9) = 17) :
    Within (· < p.buffer.length) (processUDPHeader p) ↔ 28 ≤ p.length ∧ DatagramFits p := by
  have hheader := h.header
  have hbuffer := h.buffer
  have htransport : p.transportHeader ≤ p.buffer.length := by
    rw [h.transport]
    omega
  simp only [processUDPHeader, h.accepted.network, within_bind, within_ite, within_pure,
    Packet.within_readU8, Packet.within_readU16, hproto, within_clickInCksumPseudohdr h,
    Packet.within_readCksum p _ htransport,
    implies_true, and_true, true_and, ne_eq, not_true_eq_false, not_false_eq_true, true_imp_iff,
    add_assoc, Nat.reduceAdd]
  rw [DatagramFits, h.transport, hbuffer]
  omega

theorem within_rest {α : Type} (h : Checked p) (udp : Except Exception UDPHeader)
    (f : UDPHeader → IPHeader → α) : Within (· < p.buffer.length) (match udp with
      | .error e => pure (.error e, p)
      | .ok udp => do
        let (ip, p') ← processIPHeader p
        match ip with
        | .error e => pure (.error e, p')
        | .ok ip => pure (.ok (f udp ip), p') : Logged ℕ (Except Exception α × Packet)) := by
  cases udp with
  | error e => exact within_pure _
  | ok udp =>
    refine (within_bind _ _).2 ⟨within_processIPHeader h, ?_⟩
    rcases (processIPHeader p).value with ⟨e | ip, p'⟩
    · exact within_pure _
    · exact within_pure _

theorem within_processRegistrationRequestPacket_iff (h : Checked p)
    (hproto : p.u8 (p.data + 9) = 17) :
    Within (· < p.buffer.length) (processRegistrationRequestPacket p) ↔
      52 ≤ p.length ∧ DatagramFits p := by
  have hbuffer := h.buffer
  simp only [processRegistrationRequestPacket, within_bind, Packet.within_readU8,
    Packet.within_readU16, Packet.within_readInAddr, Packet.within_readNtohl,
    within_processUDPHeader_iff h hproto]
  constructor
  · intro hr
    obtain ⟨-, -, -, -, -, hlast, ⟨-, hfits⟩, -⟩ := hr
    exact ⟨by omega, hfits⟩
  · intro hr
    obtain ⟨hlength, hfits⟩ := hr
    refine ⟨by omega, by omega, by omega, by omega, by omega, by omega, ⟨by omega, hfits⟩, ?_⟩
    exact within_rest h _ _

theorem within_processRegistrationReplyPacket_iff (h : Checked p)
    (hproto : p.u8 (p.data + 9) = 17) :
    Within (· < p.buffer.length) (processRegistrationReplyPacket p) ↔
      48 ≤ p.length ∧ DatagramFits p := by
  have hbuffer := h.buffer
  simp only [processRegistrationReplyPacket, within_bind, Packet.within_readU8,
    Packet.within_readU16, Packet.within_readInAddr, Packet.within_readNtohl,
    within_processUDPHeader_iff h hproto]
  constructor
  · intro hr
    obtain ⟨-, -, -, -, hlast, ⟨-, hfits⟩, -⟩ := hr
    exact ⟨by omega, hfits⟩
  · intro hr
    obtain ⟨hlength, hfits⟩ := hr
    refine ⟨by omega, by omega, by omega, by omega, by omega, ⟨by omega, hfits⟩, ?_⟩
    exact within_rest h _ _

theorem within_processTunnelIPPacket_iff (h : Checked p) (stripIPHeader : Bool) :
    Within (· < p.buffer.length) (processTunnelIPPacket p stripIPHeader) ↔ 40 ≤ p.length := by
  have hbuffer := h.buffer
  have hheader := h.header
  have hpull : (p.pull 20).data = p.data + 20 := by
    change p.data + min 20 p.length = _
    omega
  simp only [processTunnelIPPacket, within_bind, within_ite, within_pure, Packet.within_readU8,
    Packet.within_readInAddr, hpull, implies_true, and_true,
    Packet.within_readCksum _ 20 (show p.data + 20 ≤ p.buffer.length by omega)]
  omega

theorem within_processRouterSolicitationMessage_iff (h : Checked p) :
    Within (· < p.buffer.length) (processRouterSolicitationMessage p) ↔ 28 ≤ p.length := by
  have hbuffer := h.buffer
  have hheader := h.header
  simp only [processRouterSolicitationMessage, within_bind, within_ite, within_pure,
    Packet.within_readU16, p.setU16_setU16_u16, within_processIPHeader h, implies_true, true_and,
    Packet.within_readCksum _ 8 (show p.data + 20 ≤ p.buffer.length by omega)]
  constructor
  · intro hr
    obtain ⟨-, hlast, -⟩ := hr
    omega
  · intro hr
    refine ⟨by omega, by omega, fun _ => ?_⟩
    split
    · exact within_pure _
    · exact within_pure _

/-- Where `getPacketType` looks for an IP header. -/
def etherOffset (p : Packet) : ℕ := if p.u16 (p.data + 12) = htons 0x0800 then 14 else 0

theorem within_getPacketType_iff (h : Checked p) :
    Within (· < p.buffer.length) (getPacketType p) ↔
      (p.u8 (p.data + 9) = 1 → 20 + etherOffset p < p.length ∧
        (p.u8 (p.data + 20 + etherOffset p) = 9 → 21 + etherOffset p < p.length)) ∧
      (p.u8 (p.data + 9) = 17 → 28 + etherOffset p < p.length) := by
  have hbuffer := h.buffer
  have hheader := h.header
  have hoffset : (if p.u16 (p.data + 12) = htons 0x0800 then 14 else 0) = etherOffset p := rfl
  simp only [getPacketType, h.accepted.network, within_bind, within_ite, within_pure, hoffset,
    Packet.within_readU8, Packet.within_readU16, implies_true, and_true, true_and]
  constructor
  · intro hr
    obtain ⟨-, -, hicmp, hudp⟩ := hr
    refine ⟨fun hproto => ?_, fun hproto => ?_⟩
    · obtain ⟨htype, hcode⟩ := hicmp hproto
      exact ⟨by omega, fun h9 => by have := hcode h9; omega⟩
    · have := hudp (by rw [hproto]; decide) (by rw [hproto]; decide) hproto
      omega
  · intro hr
    obtain ⟨hicmp, hudp⟩ := hr
    refine ⟨by omega, by omega, fun hproto => ?_, fun _ _ hproto => ?_⟩
    · obtain ⟨htype, hcode⟩ := hicmp hproto
      exact ⟨by omega, fun h9 => by have := hcode h9; omega⟩
    · have := hudp hproto
      omega

variable {proto : UInt8} {byte : ℕ → UInt8}

theorem classify_eq_registration_iff :
    classify proto byte = .registration ↔ proto = 17 ∧ byte 28 = 1 := by
  unfold classify
  split_ifs <;> simp_all

theorem classify_eq_reply_iff : classify proto byte = .reply ↔ proto = 17 ∧ byte 28 = 3 := by
  unfold classify
  split_ifs <;> simp_all

theorem classify_eq_solicitation_iff :
    classify proto byte = .solicitation ↔ proto = 1 ∧ byte 20 = 10 := by
  unfold classify
  split_ifs <;> simp_all

theorem classify_eq_ipinip_iff : classify proto byte = .ipinip ↔ proto = 4 := by
  unfold classify
  split_ifs <;> simp_all

end Access

structure ReadersWithin (p : Packet) : Prop where
  packetType : Logged.Within (· < p.buffer.length) (Access.getPacketType p)
  request : getPacketType p = .registration →
    Logged.Within (· < p.buffer.length) (Access.processRegistrationRequestPacket p)
  reply : getPacketType p = .reply →
    Logged.Within (· < p.buffer.length) (Access.processRegistrationReplyPacket p)
  udp : getPacketType p = .registration ∨ getPacketType p = .reply →
    Logged.Within (· < p.buffer.length) (Access.processUDPHeader p)
  solicitation : getPacketType p = .solicitation →
    Logged.Within (· < p.buffer.length) (Access.processRouterSolicitationMessage p)
  tunnel : getPacketType p = .ipinip → ∀ stripIPHeader,
    Logged.Within (· < p.buffer.length) (Access.processTunnelIPPacket p stripIPHeader)

/-- The packet is long enough for its protocol, and for the type that the first byte behind its
headers gives it. -/
structure LongEnough (p : Packet) : Prop where
  icmp : p.u8 (p.data + 9) = 1 → 20 + Access.etherOffset p < p.length ∧
    (p.u8 (p.data + 20 + Access.etherOffset p) = 9 → 21 + Access.etherOffset p < p.length) ∧
    (p.u8 (p.data + 20 + Access.etherOffset p) = 10 → 28 ≤ p.length)
  ipinip : p.u8 (p.data + 9) = 4 → 40 ≤ p.length
  udp : p.u8 (p.data + 9) = 17 → 28 + Access.etherOffset p < p.length ∧
    (p.u8 (p.data + 28 + Access.etherOffset p) = 1 → 52 ≤ p.length ∧ DatagramFits p) ∧
    (p.u8 (p.data + 28 + Access.etherOffset p) = 3 → 48 ≤ p.length ∧ DatagramFits p)

theorem Checked.readersWithin_iff {p : Packet} (h : Checked p) :
    ReadersWithin p ↔ LongEnough p := by
  have htype : getPacketType p = classify (p.u8 (p.data + 9)) fun i =>
      p.u8 (p.data + i + Access.etherOffset p) := getPacketType_eq_classify h.accepted.network
  constructor
  · intro hr
    obtain ⟨hicmp, hudp⟩ := (Access.within_getPacketType_iff h).1 hr.packetType
    refine ⟨fun hproto => ⟨(hicmp hproto).1, (hicmp hproto).2, fun h10 => ?_⟩, fun hproto => ?_,
      fun hproto => ⟨hudp hproto, fun h1 => ?_, fun h3 => ?_⟩⟩
    · refine (Access.within_processRouterSolicitationMessage_iff h).1 (hr.solicitation ?_)
      rw [htype, Access.classify_eq_solicitation_iff]
      exact ⟨hproto, h10⟩
    · refine (Access.within_processTunnelIPPacket_iff h true).1 (hr.tunnel ?_ true)
      rw [htype, Access.classify_eq_ipinip_iff]
      exact hproto
    · refine (Access.within_processRegistrationRequestPacket_iff h hproto).1 (hr.request ?_)
      rw [htype, Access.classify_eq_registration_iff]
      exact ⟨hproto, h1⟩
    · refine (Access.within_processRegistrationReplyPacket_iff h hproto).1 (hr.reply ?_)
      rw [htype, Access.classify_eq_reply_iff]
      exact ⟨hproto, h3⟩
  · intro hr
    have hrequest : getPacketType p = .registration →
        p.u8 (p.data + 9) = 17 ∧ 52 ≤ p.length ∧ DatagramFits p := by
      intro hreg
      rw [htype, Access.classify_eq_registration_iff] at hreg
      exact ⟨hreg.1, (hr.udp hreg.1).2.1 hreg.2⟩
    have hreply : getPacketType p = .reply →
        p.u8 (p.data + 9) = 17 ∧ 48 ≤ p.length ∧ DatagramFits p := by
      intro hrep
      rw [htype, Access.classify_eq_reply_iff] at hrep
      exact ⟨hrep.1, (hr.udp hrep.1).2.2 hrep.2⟩
    refine ⟨?_, fun hreg => ?_, fun hrep => ?_, fun hor => ?_, fun hsol => ?_, fun hip => ?_⟩
    · exact (Access.within_getPacketType_iff h).2
        ⟨fun hproto => ⟨(hr.icmp hproto).1, (hr.icmp hproto).2.1⟩, fun hproto => (hr.udp hproto).1⟩
    · obtain ⟨hproto, hlong⟩ := hrequest hreg
      exact (Access.within_processRegistrationRequestPacket_iff h hproto).2 hlong
    · obtain ⟨hproto, hlong⟩ := hreply hrep
      exact (Access.within_processRegistrationReplyPacket_iff h hproto).2 hlong
    · rcases hor with hreg | hrep
      · obtain ⟨hproto, hlong, hfits⟩ := hrequest hreg
        exact (Access.within_processUDPHeader_iff h hproto).2 ⟨by omega, hfits⟩
      · obtain ⟨hproto, hlong, hfits⟩ := hreply hrep
        exact (Access.within_processUDPHeader_iff h hproto).2 ⟨by omega, hfits⟩
    · rw [htype, Access.classify_eq_solicitation_iff] at hsol
      exact (Access.within_processRouterSolicitationMessage_iff h).2 ((hr.icmp hsol.1).2.2 hsol.2)
    · rw [htype, Access.classify_eq_ipinip_iff] at hip
      exact fun strip => (Access.within_processTunnelIPPacket_iff h strip).2 (hr.ipinip hip)

/-- The readers stay inside a packet that `CheckIPHeader` has accepted exactly if it is as long as
its protocol, its type and the length in its UDP header call for. -/
theorem readers_within_iff {c : CheckIPHeader} {p₀ p : Packet} (hc : c.checksum = true)
    (hoffset : c.offset = 0) (h : c.simpleAction p₀ = some p) : ReadersWithin p ↔ LongEnough p :=
  (checked_of_simpleAction hc hoffset h).readersWithin_iff

section Examples

open Definitions

theorem readers_within_request :
    ReadersWithin ((requestFrom 100 7).packet RegistrationRequestPacket.bytes) := by
  have hpassed : CheckIPHeader.simpleAction {}
      ((requestFrom 100 7).packet RegistrationRequestPacket.bytes) =
        some ((requestFrom 100 7).packet RegistrationRequestPacket.bytes) := by decide +kernel
  refine (readers_within_iff rfl rfl hpassed).2 ⟨fun hproto => absurd hproto (by decide +kernel),
    fun hproto => absurd hproto (by decide +kernel), fun _ => ⟨by decide +kernel, fun _ => ?_,
      fun h3 => absurd h3 (by decide +kernel)⟩⟩
  exact ⟨by decide +kernel, Or.inr (by decide +kernel)⟩

def headerOnly : Packet where
  buffer := ipHeaderBytes 0 20 1 17 (clickInCksum (ipHeaderBytes 0 20 1 17 0 mobileNodeAddress
    foreignAgentPrivateAddress)) mobileNodeAddress foreignAgentPrivateAddress
  data := 0
  networkHeader := some 0
  transportHeader := 20

/-- To find the type of its message, byte 28 of 20 is read. -/
theorem type_beyond_packet : ¬ ∀ (c : CheckIPHeader) (p₀ p : Packet), c.checksum = true →
    c.offset = 0 → c.simpleAction p₀ = some p → ReadersWithin p := by
  intro hall
  have hread := (hall {} headerOnly headerOnly rfl rfl (by decide +kernel)).packetType
  exact absurd (hread 28 (by decide +kernel)) (by decide +kernel)

end Examples

end MobileIP
