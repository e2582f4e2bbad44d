import MobileIP.Spec.Builders
import Mathlib.Tactic

/-! What a registration message shows of itself, and what the readers can return. -/

namespace MobileIP

/-- The code of a reply; requests have none. -/
def Emission.code (e : Emission) : Option UInt8 :=
  match e.message with
  | .reply d => some d.payload.code
  | .request _ => none

/-- The low half of the identification, by which requests and replies are matched. -/
def Emission.identification (e : Emission) : UInt32 :=
  match e.message with
  | .reply d => d.payload.identification2
  | .request d => d.payload.identification2

def Emission.destination (e : Emission) : IPAddress :=
  match e.message with
  | .reply d => d.destination
  | .request d => d.destination

def Emission.requestedLifetime (e : Emission) : Option UInt16 :=
  match e.message with
  | .reply _ => none
  | .request d => some d.payload.lifetime

theorem toUInt32_toUInt16 {x : UInt32} (h : x.toNat ≤ 65535) : x.toUInt16.toUInt32 = x := by
  refine UInt32.toNat_inj.1 ?_
  rw [UInt16.toNat_toUInt32, UInt32.toNat_toUInt16]
  omega

def plainRequest (lifetime : UInt32) (home homeAgent careOf : IPAddress) (UDP : UDPHeader)
    (IP : IPHeader) (identification : UInt32) : RegistrationRequest where
  S := false
  B := false
  D := false
  M := false
  G := false
  r := false
  T := false
  x := false
  lifetime := lifetime
  home := home
  homeAgent := homeAgent
  careOf := careOf
  UDP := UDP
  IP := IP
  identification := identification

theorem request_UDPIPfy {lifetime sourcePort destinationPort identification : UInt32}
    (hl : lifetime.toNat ≤ 65535) (hs : sourcePort.toNat ≤ 65535)
    (hd : destinationPort.toNat ≤ 65535) (hid : identification ≠ 0) (clock : Clock)
    (home homeAgent careOf source destination : IPAddress) (ttl : UInt8) :
    (UDPIPfy (buildRegistrationRequestPacket clock lifetime home homeAgent careOf identification)
        source sourcePort destination destinationPort ttl).request =
      plainRequest lifetime home homeAgent careOf ⟨sourcePort, destinationPort⟩
        ⟨source, destination⟩ identification := by
  simp only [Datagram.request, UDPIPfy, buildRegistrationRequestPacket, plainRequest,
    toUInt32_toUInt16 hl, toUInt32_toUInt16 hs, toUInt32_toUInt16 hd, if_neg hid]

theorem reply_UDPIPfy {lifetime sourcePort destinationPort : UInt32} (hl : lifetime.toNat ≤ 65535)
    (hs : sourcePort.toNat ≤ 65535) (hd : destinationPort.toNat ≤ 65535) (clock : Clock)
    (code : UInt8) (home homeAgent : IPAddress) (identification : UInt32)
    (source destination : IPAddress) (ttl : UInt8) :
    (UDPIPfy (buildRegistrationReplyPacket clock lifetime code home homeAgent identification)
        source sourcePort destination destinationPort ttl).reply =
      { code := code.toUInt32
        lifetime := lifetime
        home := home
        homeAgent := homeAgent
        UDP := ⟨sourcePort, destinationPort⟩
        IP := ⟨source, destination⟩
        identification := identification } := by
  simp only [Datagram.reply, UDPIPfy, buildRegistrationReplyPacket, toUInt32_toUInt16 hl,
    toUInt32_toUInt16 hs, toUInt32_toUInt16 hd]

theorem ntohs_lt (w : ℕ) : ntohs w < 65536 := by
  unfold ntohs
  omega

theorem toNat_ofNat_ntohs (w : ℕ) : (UInt32.ofNat (ntohs w)).toNat = ntohs w := by
  have := ntohs_lt w
  rw [UInt32.toNat_ofNat']
  omega

theorem toNat_ofNat_ntohs_le (w : ℕ) : (UInt32.ofNat (ntohs w)).toNat ≤ 65535 := by
  have := ntohs_lt w
  rw [toNat_ofNat_ntohs]
  omega

def Exception.IsChecksum : Exception → Prop
  | .zeroChecksum _ => True
  | .invalidChecksum _ => True
  | _ => False

theorem Exception.IsChecksum.cases {e : Exception} (h : e.IsChecksum) :
    (∃ identifier, e = .zeroChecksum identifier) ∨
      ∃ identifier, e = .invalidChecksum identifier := by
  cases e with
  | zeroChecksum identifier => exact Or.inl ⟨identifier, rfl⟩
  | invalidChecksum identifier => exact Or.inr ⟨identifier, rfl⟩
  | requestNotFound _ => exact h.elim
  | undefinedBehaviour _ => exact h.elim

theorem processIPHeader_error {p : Packet} {e : Exception}
    (h : (processIPHeader p).1 = .error e) : e.IsChecksum := by
  unfold processIPHeader at h
  split at h
  · cases h
  · dsimp only at h
    split_ifs at h
    all_goals cases h
    all_goals trivial

theorem processUDPHeader_error {p : Packet} {e : Exception}
    (h : processUDPHeader p = .error e) : e = .invalidChecksum "UDP Header" := by
  unfold processUDPHeader at h
  split at h
  · cases h
  · dsimp only at h
    split_ifs at h
    all_goals cases h
    rfl

theorem processUDPHeader_ports {p : Packet} {udp : UDPHeader} (h : processUDPHeader p = .ok udp) :
    udp.sourcePort.toNat ≤ 65535 ∧ udp.destinationPort.toNat ≤ 65535 := by
  unfold processUDPHeader at h
  split at h
  · cases h; exact ⟨by decide, by decide⟩
  · dsimp only at h
    split_ifs at h
    all_goals cases h
    · exact ⟨by decide, by decide⟩
    · exact ⟨toNat_ofNat_ntohs_le _, toNat_ofNat_ntohs_le _⟩
    · exact ⟨toNat_ofNat_ntohs_le _, toNat_ofNat_ntohs_le _⟩

def requestAt (p : Packet) (udp : ℕ) (ip : IPHeader) : RegistrationRequest where
  S := bit (p.u8 (udp + 9)) 7
  B := bit (p.u8 (udp + 9)) 6
  D := bit (p.u8 (udp + 9)) 5
  M := bit (p.u8 (udp + 9)) 4
  G := bit (p.u8 (udp + 9)) 3
  r := bit (p.u8 (udp + 9)) 2
  T := bit (p.u8 (udp + 9)) 1
  x := bit (p.u8 (udp + 9)) 0
  lifetime := UInt32.ofNat (ntohs (p.u16 (udp + 10)))
  home := p.inAddr (udp + 12)
  homeAgent := p.inAddr (udp + 16)
  careOf := p.inAddr (udp + 20)
  UDP := ⟨UInt32.ofNat (ntohs (p.u16 udp)), UInt32.ofNat (ntohs (p.u16 (udp + 2)))⟩
  IP := ip
  identification := UInt32.ofNat (ntohl p (udp + 28))

def replyAt (p : Packet) (udp : ℕ) (ip : IPHeader) : RegistrationReply where
  code := (p.u8 (udp + 9)).toUInt32
  lifetime := UInt32.ofNat (ntohs (p.u16 (udp + 10)))
  home := p.inAddr (udp + 12)
  homeAgent := p.inAddr (udp + 16)
  UDP := ⟨UInt32.ofNat (ntohs (p.u16 udp)), UInt32.ofNat (ntohs (p.u16 (udp + 2)))⟩
  IP := ip
  identification := UInt32.ofNat (ntohl p (udp + 24))

theorem processRegistrationRequestPacket_cases (p : Packet) :
    (∃ e, (processRegistrationRequestPacket p).1 = .error e ∧ e.IsChecksum) ∨
      ∃ registration, (processRegistrationRequestPacket p).1 = .ok registration ∧
        processUDPHeader p = .ok registration.UDP ∧
        registration = { requestAt p (p.data + 20) registration.IP with
          UDP := registration.UDP } := by
  rcases hudp : processUDPHeader p with e | udp
  · refine Or.inl ⟨e, by simp only [processRegistrationRequestPacket, hudp], ?_⟩
    rw [processUDPHeader_error hudp]
    trivial
  · rcases hip : processIPHeader p with ⟨e | ip, p'⟩
    · refine Or.inl ⟨e, by simp only [processRegistrationRequestPacket, hudp, hip], ?_⟩
      exact processIPHeader_error (congrArg Prod.fst hip)
    · exact Or.inr ⟨_, by simp only [processRegistrationRequestPacket, hudp, hip]; rfl, rfl, rfl⟩

theorem processRegistrationReplyPacket_cases (p : Packet) :
    (∃ e, (processRegistrationReplyPacket p).1 = .error e ∧ e.IsChecksum) ∨
      ∃ reply, (processRegistrationReplyPacket p).1 = .ok reply ∧
        processUDPHeader p = .ok reply.UDP ∧
        reply = { replyAt p (p.data + 20) reply.IP with UDP := reply.UDP } := by
  rcases hudp : processUDPHeader p with e | udp
  · refine Or.inl ⟨e, by simp only [processRegistrationReplyPacket, hudp], ?_⟩
    rw [processUDPHeader_error hudp]
    trivial
  · rcases hip : processIPHeader p with ⟨e | ip, p'⟩
    · refine Or.inl ⟨e, by simp only [processRegistrationReplyPacket, hudp, hip], ?_⟩
      exact processIPHeader_error (congrArg Prod.fst hip)
    · exact Or.inr ⟨_, by simp only [processRegistrationReplyPacket, hudp, hip]; rfl, rfl, rfl⟩

theorem processRegistrationRequestPacket_error {p : Packet} {e : Exception}
    (h : (processRegistrationRequestPacket p).1 = .error e) : e.IsChecksum := by
  obtain ⟨e', he, hsum⟩ | ⟨registration, hread, -⟩ := processRegistrationRequestPacket_cases p
  · cases h.symm.trans he
    exact hsum
  · cases h.symm.trans hread

theorem processRegistrationReplyPacket_error {p : Packet} {e : Exception}
    (h : (processRegistrationReplyPacket p).1 = .error e) : e.IsChecksum := by
  obtain ⟨e', he, hsum⟩ | ⟨reply, hread, -⟩ := processRegistrationReplyPacket_cases p
  · cases h.symm.trans he
    exact hsum
  · cases h.symm.trans hread

theorem processRegistrationRequestPacket_fields {p : Packet} {registration : RegistrationRequest}
    (h : (processRegistrationRequestPacket p).1 = .ok registration) :
    registration.UDP.sourcePort.toNat ≤ 65535 ∧ registration.lifetime.toNat ≤ 65535 := by
  obtain ⟨e, he, -⟩ | ⟨registration', hread, hudp, hfields⟩ :=
    processRegistrationRequestPacket_cases p
  · cases h.symm.trans he
  · cases h.symm.trans hread
    refine ⟨(processUDPHeader_ports hudp).1, ?_⟩
    rw [congrArg RegistrationRequest.lifetime hfields]
    exact toNat_ofNat_ntohs_le _

theorem processRegistrationReplyPacket_fields {p : Packet} {reply : RegistrationReply}
    (h : (processRegistrationReplyPacket p).1 = .ok reply) :
    reply.code.toUInt8.toUInt32 = reply.code ∧ reply.lifetime.toNat ≤ 65535 := by
  obtain ⟨e, he, -⟩ | ⟨reply', hread, -, hfields⟩ := processRegistrationReplyPacket_cases p
  · cases h.symm.trans he
  · cases h.symm.trans hread
    rw [congrArg RegistrationReply.code hfields, congrArg RegistrationReply.lifetime hfields]
    exact ⟨by simp [replyAt], toNat_ofNat_ntohs_le _⟩

theorem processRouterAdvertisementMessage_error {p : Packet} {e : Exception}
    (h : (processRouterAdvertisementMessage p).1 = .error e) : e.IsChecksum := by
  unfold processRouterAdvertisementMessage at h
  dsimp only at h
  split_ifs at h
  · cases h
    trivial
  · split at h
    · rename_i heq
      cases h
      exact processIPHeader_error (by rw [heq])
    · cases h

theorem processRouterSolicitationMessage_error {p : Packet} {e : Exception}
    (h : (processRouterSolicitationMessage p).1 = .error e) : e.IsChecksum := by
  unfold processRouterSolicitationMessage at h
  dsimp only at h
  split_ifs at h
  · cases h
    trivial
  · split at h
    · next hip =>
      cases h
      exact processIPHeader_error (by rw [hip])
    · cases h

end MobileIP
