import MobileIP.Proofs.Advertisements
import MobileIP.Spec.Definitions
import MobileIP.Spec.Tunnel

/-! What a message carries through a builder, the headers around it and a reader, and which IP
headers the reader of headers lets through on the way. -/

namespace MobileIP

section Headers

variable {p : Packet} {format : ℕ}

def Exact (p : Packet) (format : ℕ) : Prop :=
  (clickInCksum (p.slice format 20) = 0 → ∃ ip, (processIPHeader p).1 = .ok ip) ∧
    (clickInCksum (p.slice format 20) ≠ 0 → ∃ e, (processIPHeader p).1 = .error e)

theorem exact_iff (hn : p.networkHeader = some format) (hhl : (p.u8 format).toNat % 16 = 5)
    (hlen : format + 20 ≤ p.buffer.length) : Exact p format ↔
      ¬ (clickInCksum (p.slice format 20) = 0 ∧
        (p.u16 (format + 10) = 0 ∨ p.u16 (format + 10) = 65535)) := by
  have hversion : p.u8 format ≠ 0 := by
    intro h0
    rw [h0] at hhl
    exact absurd hhl (by decide)
  have hok := processIPHeader_ok_iff hlen hversion hn
  have hverifies := clickInCksum_eq_zero_iff ((p.length_slice_le format 20).trans (by decide))
  have hthrows : (¬ ∃ ip, (processIPHeader p).1 = .ok ip) →
      ∃ e, (processIPHeader p).1 = .error e := by
    intro hnot
    cases hr : (processIPHeader p).1 with
    | error e => exact ⟨e, rfl⟩
    | ok ip => exact absurd ⟨ip, hr⟩ hnot
  constructor
  · intro hexact hbad
    obtain ⟨hzero, hones, -⟩ := hok.1 (hexact.1 hbad.1)
    exact hbad.2.elim hzero hones
  · intro hgood
    refine ⟨?_, ?_⟩
    · intro hv
      refine hok.2 ⟨fun h0 => hgood ⟨hv, Or.inl h0⟩, fun h1 => hgood ⟨hv, Or.inr h1⟩, ?_⟩
      exact (hverifies.1 hv).1
    · intro hv
      refine hthrows fun hreturns => hv (hverifies.2 ⟨(hok.1 hreturns).2.2, ?_⟩)
      have hhead := head_le_wordSum (p.slice format 20)
      rw [p.getD_slice (by decide), add_zero] at hhead
      omega

/-- A header of the builders is let through exactly if its words, the checksum aside, do not add up
to a multiple of 65535: for such a sum the checksum is 0. -/
theorem built_header_iff {tos ttl proto : UInt8} {len : ℕ} {source destination : IPAddress}
    (hn : p.networkHeader = some format)
    (hslice : p.slice format 20 = ipHeaderBytes tos len ttl proto
      (clickInCksum (ipHeaderBytes tos len ttl proto 0 source destination)) source destination) :
    (∃ ip, (processIPHeader p).1 = .ok ip) ↔
      wordSum (ipHeaderBytes tos len ttl proto 0 source destination) % 65535 ≠ 0 := by
  have hlen : format + 20 ≤ p.buffer.length := by
    have hlength := congrArg List.length hslice
    change ((p.buffer.drop format).take 20).length = 20 at hlength
    rw [List.length_take, List.length_drop] at hlength
    omega
  have hversion : p.u8 format ≠ 0 := by
    have hhead := p.getD_slice (f := format) (show 0 < 20 by decide)
    rw [hslice, add_zero] at hhead
    rw [← hhead]
    change (0x45 : UInt8) ≠ 0
    decide
  have hsum : p.u16 (format + 10) =
      clickInCksum (ipHeaderBytes tos len ttl proto 0 source destination) := by
    rw [← p.word_slice (show 10 + 1 < 20 by decide), hslice]
    exact host16_toNat (clickInCksum_lt _)
  have hne : wordSum (ipHeaderBytes tos len ttl proto 0 source destination) ≠ 0 := by
    rw [ipHeaderBytes_setWord]
    exact ipHeaderBytes_ne_zero _ _ _ _ _ _
  have hbound : (ipHeaderBytes tos len ttl proto 0 source destination).length ≤ 65536 := by
    change 20 ≤ 65536
    decide
  have hverifies := ipHeaderBytes_verifies tos len ttl proto source destination
  rw [← hslice, clickInCksum_eq_zero_iff ((p.length_slice_le format 20).trans (by decide))]
    at hverifies
  rw [processIPHeader_ok_iff hlen hversion hn, hsum, Ne, clickInCksum_eq_zero_iff hbound]
  exact ⟨fun h h0 => h.1 ⟨h0, hne⟩,
    fun h => ⟨fun h0 => h h0.1, clickInCksum_ne_all_ones hbound hne, hverifies.1⟩⟩

end Headers

/-- The reader of headers decides by the checksum of the header exactly if it is not led astray by
a checksum of 0 or of 65535 that verifies. Of the headers that the builders write it rejects those
with the checksum 0. -/
theorem exact_acceptance_iff {p : Packet} {format : ℕ} (hn : p.networkHeader = some format)
    (hhl : (p.u8 format).toNat % 16 = 5) (hlen : format + 20 ≤ p.buffer.length) {α : Type}
    (bytes : α → List UInt8) (d : Datagram α) (packet : List UInt8) (originalPacket : Packet)
    (source destination : IPAddress) (ttl : UInt8) :
    (Exact p format ↔ ¬ (clickInCksum (p.slice format 20) = 0 ∧
      (p.u16 (format + 10) = 0 ∨ p.u16 (format + 10) = 65535))) ∧
    ((∃ ip, (processIPHeader (d.packet bytes)).1 = .ok ip) ↔
      wordSum (ipHeaderBytes 0 ((bytes d.payload).length + 8 + 20) d.ttl 17 0 d.source
        d.destination) % 65535 ≠ 0) ∧
    ((∃ ip, (processIPHeader (ICMPIPfy packet source destination ttl)).1 = .ok ip) ↔
      wordSum (ipHeaderBytes 0 (packet.length + 20) ttl 1 0 source destination) % 65535 ≠ 0) ∧
    ((∃ ip, (processIPHeader (buildTunnelIPPacket originalPacket source destination)).1 = .ok ip) ↔
      wordSum (ipHeaderBytes (originalPacket.u8 (originalPacket.networkHeader.getD 0 + 1))
        (originalPacket.length + 20)
        (originalPacket.u8 (originalPacket.networkHeader.getD 0 + 8) - 1) 4 0 source
        destination) % 65535 ≠ 0) :=
  ⟨exact_iff hn hhl hlen, built_header_iff rfl rfl, built_header_iff rfl rfl,
    built_header_iff rfl rfl⟩

section Examples

open Definitions

theorem exact_acceptance_first :
    (∃ ip, (processIPHeader (dataPacket 0 32503)).1 = .ok ip) ∧
      (∃ ip, (processIPHeader ((requestFrom 100 1).packet RegistrationRequestPacket.bytes)).1 =
        .ok ip) ∧
      (∃ ip, (processIPHeader (ICMPIPfy [] homeAgentPublicAddress foreignAgentPublicAddress 1)).1 =
        .ok ip) ∧
      ∃ ip, (processIPHeader (buildTunnelIPPacket (dataPacket 0 32503) homeAgentPublicAddress
        foreignAgentPublicAddress)).1 = .ok ip := by
  have hlen : 0 + 20 ≤ (dataPacket 0 32503).buffer.length := by decide
  obtain ⟨hexact, hrequest, hicmp, htunnel⟩ := exact_acceptance_iff (p := dataPacket 0 32503) rfl
    (by decide) hlen RegistrationRequestPacket.bytes (requestFrom 100 1) [] (dataPacket 0 32503)
    homeAgentPublicAddress foreignAgentPublicAddress 1
  exact ⟨(hexact.2 (by decide +kernel)).1 (by decide +kernel), hrequest.2 (by decide +kernel),
    hicmp.2 (by decide +kernel), htunnel.2 (by decide +kernel)⟩

/-- The answer of a foreign agent to a node at 192.168.52.127 has a header with the checksum 0. -/
theorem zero_checksum_rejected :
    ¬ ((∀ p format, p.networkHeader = some format → (p.u8 format).toNat % 16 = 5 →
        format + 20 ≤ p.buffer.length → Exact p format) ∧
      ∀ packet source destination ttl,
        ∃ ip, (processIPHeader (ICMPIPfy packet source destination ttl)).1 = .ok ip) := by
  intro h
  have hrejected : (processIPHeader (ICMPIPfy (buildRouterAdvertisementMessage 45 60
      foreignAgentPublicAddress 0 false true) foreignAgentPrivateAddress ⟨192, 168, 52, 127⟩ 1)).1 =
        .error (.zeroChecksum "IP Header") := by decide +kernel
  have hexact := h.1 (ICMPIPfy (buildRouterAdvertisementMessage 45 60 foreignAgentPublicAddress 0
    false true) foreignAgentPrivateAddress ⟨192, 168, 52, 127⟩ 1) 0 rfl (by decide +kernel)
    (by decide +kernel)
  obtain ⟨ip, hip⟩ := hexact.1 (by decide +kernel)
  rw [hrejected] at hip
  cases hip

end Examples

/-- What `UDPIPfy` writes around a registration message carries it through the readers, whatever its
UDP checksum is, unless the checksum of the IP header is 0. -/
theorem registration_round_trip {lifetime sourcePort destinationPort : UInt32}
    (hl : lifetime.toNat < 65536) (hs : sourcePort.toNat < 65536)
    (hd : destinationPort.toNat < 65536) (clock : Clock) (home homeAgent careOf : IPAddress)
    (identification : UInt32) (source destination : IPAddress) (ttl : UInt8) :
    (identification ≠ 0 → ∀ p, p = (UDPIPfy (buildRegistrationRequestPacket clock lifetime home
        homeAgent careOf identification) source sourcePort destination destinationPort ttl).packet
          RegistrationRequestPacket.bytes → p.u16 10 ≠ 0 →
      (processRegistrationRequestPacket p).1 = .ok (plainRequest lifetime home homeAgent careOf
        ⟨sourcePort, destinationPort⟩ ⟨source, destination⟩ identification)) ∧
    ∀ code : UInt32, code.toNat < 256 → ∀ p, p = (UDPIPfy (buildRegistrationReplyPacket clock
        lifetime code.toUInt8 home homeAgent identification) source sourcePort destination
          destinationPort ttl).packet RegistrationReplyPacket.bytes → p.u16 10 ≠ 0 →
      (processRegistrationReplyPacket p).1 = .ok
        { code := code
          lifetime := lifetime
          home := home
          homeAgent := homeAgent
          UDP := ⟨sourcePort, destinationPort⟩
          IP := ⟨source, destination⟩
          identification := identification } := by
  refine ⟨?_, ?_⟩
  · intro hid p hp hsum
    subst hp
    rw [Datagram.packet_checksum] at hsum
    have hread := (Datagram.request_read_iff _ _).2 ⟨hsum, rfl⟩
    rwa [request_UDPIPfy (by omega) (by omega) (by omega) hid] at hread
  · intro code hcode p hp hsum
    subst hp
    rw [Datagram.packet_checksum] at hsum
    have hread := (Datagram.reply_read_iff _ _).2 ⟨hsum, rfl⟩
    have hbyte : code.toUInt8.toUInt32 = code := by
      refine UInt32.toNat_inj.1 ?_
      rw [UInt8.toNat_toUInt32, UInt32.toNat_toUInt8]
      omega
    rwa [reply_UDPIPfy (by omega) (by omega) (by omega), hbyte] at hread

section Examples

open Definitions

theorem registration_round_trip_first :
    (processRegistrationRequestPacket ((requestFrom 100 1).packet
        RegistrationRequestPacket.bytes)).1 =
      .ok (plainRequest 100 mobileNodeAddress homeAgentPublicAddress foreignAgentPublicAddress
        ⟨5241, 434⟩ ⟨mobileNodeAddress, foreignAgentPrivateAddress⟩ 1) ∧
    (processRegistrationReplyPacket ((replyFrom 100 1).packet RegistrationReplyPacket.bytes)).1 =
      .ok ⟨0, 100, mobileNodeAddress, homeAgentPublicAddress, ⟨434, 3581⟩,
        ⟨homeAgentPublicAddress, foreignAgentPublicAddress⟩, 1⟩ :=
  ⟨(registration_round_trip (by decide) (by decide) (by decide) ⟨0, 0⟩ mobileNodeAddress
      homeAgentPublicAddress foreignAgentPublicAddress 1 mobileNodeAddress
      foreignAgentPrivateAddress 1).1 (by decide) _ rfl (by decide +kernel),
    (registration_round_trip (by decide) (by decide) (by decide) ⟨0, 0⟩ mobileNodeAddress
      homeAgentPublicAddress foreignAgentPublicAddress 1 homeAgentPublicAddress
      foreignAgentPublicAddress 1).2 0 (by decide) _ rfl (by decide +kernel)⟩

end Examples

theorem ICMPIPfy_headed (packet : List UInt8) (source destination : IPAddress) (ttl : UInt8) :
    (ICMPIPfy packet source destination ttl).Headed [] packet (packet.length + 20) ttl 1 source
      destination := ⟨rfl, rfl⟩

theorem advertisement_read {lifetime registrationLifetime sequenceNumber : UInt32}
    (hl : lifetime.toNat < 65536) (hr : registrationLifetime.toNat < 65536)
    (hs : sequenceNumber.toNat < 65536) (careOfAddress : IPAddress) (homeAgent foreignAgent : Bool)
    (source destination : IPAddress) (ttl : UInt8)
    (hsum : (ICMPIPfy (buildRouterAdvertisementMessage lifetime registrationLifetime careOfAddress
      sequenceNumber homeAgent foreignAgent) source destination ttl).u16 10 ≠ 0) :
    (processRouterAdvertisementMessage (ICMPIPfy (buildRouterAdvertisementMessage lifetime
        registrationLifetime careOfAddress sequenceNumber homeAgent foreignAgent) source destination
          ttl)).1 = .ok
      { lifetime := lifetime
        code := 0
        sequenceNumber := sequenceNumber
        registrationLifetime := registrationLifetime
        homeAgent := homeAgent
        -- the reader takes both flags from the bit of the home agent
        foreignAgent := homeAgent
        careOfAddress := careOfAddress
        IP := ⟨source, destination⟩ } := by
  let a : MobileIPAdvertiser := ⟨homeAgent, foreignAgent, sequenceNumber, lifetime,
    registrationLifetime, source, careOfAddress⟩
  have hheaded := ICMPIPfy_headed a.message source destination ttl
  have hsum' : headerSum (a.message.length + 20) ttl 1 source destination ≠ 0 := by
    rw [← hheaded.checksum]
    exact hsum
  have hread := a.processRouterAdvertisementMessage_message destination
    (q := ICMPIPfy a.message source destination ttl) hheaded.buffer rfl
  rw [hheaded.processIPHeader hsum'] at hread
  refine hread.trans ?_
  simp only [Except.map, MobileIPAdvertiser.advertisement, a,
    toUInt32_toUInt16 (Nat.le_of_lt_succ hl), toUInt32_toUInt16 (Nat.le_of_lt_succ hr),
    toUInt32_toUInt16 (Nat.le_of_lt_succ hs)]

/-- An advertisement is read as it was written exactly if its two flags are the same. -/
theorem advertisement_round_trip_iff {lifetime registrationLifetime sequenceNumber : UInt32}
    (hl : lifetime.toNat < 65536) (hr : registrationLifetime.toNat < 65536)
    (hs : sequenceNumber.toNat < 65536) (careOfAddress : IPAddress) (homeAgent foreignAgent : Bool)
    (source destination : IPAddress) (ttl : UInt8)
    (hsum : (ICMPIPfy (buildRouterAdvertisementMessage lifetime registrationLifetime careOfAddress
      sequenceNumber homeAgent foreignAgent) source destination ttl).u16 10 ≠ 0) :
    (∃ advertisement, (processRouterAdvertisementMessage (ICMPIPfy (buildRouterAdvertisementMessage
        lifetime registrationLifetime careOfAddress sequenceNumber homeAgent foreignAgent) source
          destination ttl)).1 = .ok advertisement ∧
      advertisement.lifetime = lifetime ∧
      advertisement.registrationLifetime = registrationLifetime ∧
      advertisement.sequenceNumber = sequenceNumber ∧
      advertisement.careOfAddress = careOfAddress ∧
      advertisement.homeAgent = homeAgent ∧ advertisement.foreignAgent = foreignAgent ∧
      advertisement.IP = ⟨source, destination⟩) ↔ homeAgent = foreignAgent := by
  rw [advertisement_read hl hr hs careOfAddress homeAgent foreignAgent source destination ttl hsum]
  constructor
  · intro h
    obtain ⟨advertisement, hread, -, -, -, -, -, hforeign, -⟩ := h
    cases hread
    exact hforeign
  · intro h
    exact ⟨_, rfl, rfl, rfl, rfl, rfl, rfl, h, rfl⟩

section Examples

open Definitions

theorem advertisement_round_trip_both :
    ∃ advertisement, (processRouterAdvertisementMessage (ICMPIPfy (buildRouterAdvertisementMessage
        45 60 foreignAgentPublicAddress 0 true true) foreignAgentPrivateAddress .broadcast 1)).1 =
          .ok advertisement ∧ advertisement.foreignAgent = true := by
  obtain ⟨advertisement, hread, -, -, -, -, -, hforeign, -⟩ :=
    (advertisement_round_trip_iff (show (45 : UInt32).toNat < 65536 by decide)
      (show (60 : UInt32).toNat < 65536 by decide) (show (0 : UInt32).toNat < 65536 by decide)
      foreignAgentPublicAddress true true foreignAgentPrivateAddress .broadcast 1
      (by decide +kernel)).2 rfl
  exact ⟨advertisement, hread, hforeign⟩

/-- The advertisements of the foreign agent of the scripts are not read as those of one. -/
theorem foreign_agent_flag_lost :
    ¬ ∀ lifetime registrationLifetime sequenceNumber : UInt32, lifetime.toNat < 65536 →
      registrationLifetime.toNat < 65536 → sequenceNumber.toNat < 65536 →
      ∀ careOfAddress homeAgent foreignAgent source destination ttl,
        (ICMPIPfy (buildRouterAdvertisementMessage lifetime registrationLifetime careOfAddress
          sequenceNumber homeAgent foreignAgent) source destination ttl).u16 10 ≠ 0 →
        ∃ advertisement, (processRouterAdvertisementMessage (ICMPIPfy
            (buildRouterAdvertisementMessage lifetime registrationLifetime careOfAddress
              sequenceNumber homeAgent foreignAgent) source destination ttl)).1 =
            .ok advertisement ∧ advertisement.foreignAgent = foreignAgent := by
  intro h
  have hsum : (ICMPIPfy (buildRouterAdvertisementMessage 45 60 foreignAgentPublicAddress 0 false
      true) foreignAgentPrivateAddress .broadcast 1).u16 10 ≠ 0 := by decide +kernel
  obtain ⟨advertisement, hread, hforeign⟩ := h 45 60 0 (by decide) (by decide) (by decide)
    foreignAgentPublicAddress false true foreignAgentPrivateAddress .broadcast 1 hsum
  rw [advertisement_read (by decide) (by decide) (by decide) _ _ _ _ _ _ hsum] at hread
  cases hread
  cases hforeign

end Examples

end MobileIP
