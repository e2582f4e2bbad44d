import MobileIP.Lib.Logged
import MobileIP.Spec.Packet

/-! The readers of `packets/PacketProcessors.cc` once more, with the bytes of the packet that they
read, in their order. A place outside the packet reads as 0 here; it is in the log nevertheless. -/

namespace MobileIP

namespace Packet

abbrev readU8 (p : Packet) (i : ℕ) : Logged ℕ UInt8 := ⟨p.u8 i, [i]⟩

abbrev readU16 (p : Packet) (i : ℕ) : Logged ℕ ℕ := ⟨p.u16 i, [i, i + 1]⟩

abbrev readInAddr (p : Packet) (i : ℕ) : Logged ℕ IPAddress :=
  ⟨p.inAddr i, [i, i + 1, i + 2, i + 3]⟩

abbrev readNtohl (p : Packet) (i : ℕ) : Logged ℕ ℕ := ⟨ntohl p i, [i, i + 1, i + 2, i + 3]⟩

abbrev readCksum (p : Packet) (i len : ℕ) : Logged ℕ ℕ :=
  ⟨clickInCksum (p.slice i len), List.range' i len⟩

end Packet

namespace Access

def sourceRoute (p : Packet) (endOpt : ℕ) : ℕ → ℕ → Logged ℕ (Option IPAddress)
  | 0, _ => pure none
  | fuel + 1, opt =>
    if endOpt ≤ opt then pure none
    else do
      let type ← p.readU8 opt
      if type = 1 then sourceRoute p endOpt fuel (opt + 1)
      else if type = 0 then pure none
      -- the length is read only if it is within the options
      else if endOpt ≤ opt + 1 then pure none
      else do
        let len ← p.readU8 (opt + 1)
        if len.toNat < 2 ∨ endOpt < opt + len.toNat then pure none
        else if (type = 137 ∨ type = 131) ∧ 7 ≤ len.toNat then do
          let daddr ← p.readInAddr (opt + len.toNat - 4)
          pure (some daddr)
        else sourceRoute p endOpt fuel (opt + len.toNat)

def clickInCksumPseudohdr (csum : ℕ) (p : Packet) (iph packetLen : ℕ) : Logged ℕ ℕ := do
  let hl ← p.readU8 iph
  let daddr ←
    if hl.toNat % 16 = 5 then pure none
    else sourceRoute p (iph + 4 * (hl.toNat % 16)) (4 * (hl.toNat % 16)) (iph + 20)
  let src ← p.readInAddr (iph + 12)
  let dst ←
    match daddr with
    | some daddr => pure daddr
    | none => p.readInAddr (iph + 16)
  let proto ← p.readU8 (iph + 9)
  pure (clickInCksumPseudohdrRaw csum src dst proto.toNat packetLen)

def getPacketType (p : Packet) : Logged ℕ PacketType := do
  let etherType ← p.readU16 (p.data + 12)
  let etherOffset := if etherType = htons 0x0800 then 14 else 0
  match p.networkHeader with
  | none => pure .unkown
  | some ip => do
    let proto ← p.readU8 (ip + 9)
    if proto = 1 then do
      let type ← p.readU8 (p.data + 20 + etherOffset)
      let isAdvertisement ←
        if type = 9 then do
          let code ← p.readU8 (p.data + 20 + etherOffset + 1)
          pure (decide (code = 16 ∨ code = 0))
        else pure false
      if isAdvertisement = true then pure .advertisement
      else if type = 10 then pure .solicitation
      else pure .unkown
    else if proto = 4 then pure .ipinip
    else if proto = 17 then do
      let type ← p.readU8 (p.data + 28 + etherOffset)
      if type = 1 then pure .registration
      else if type = 3 then pure .reply
      else pure .unkown
    else pure .unkown

def processUDPHeader (p : Packet) : Logged ℕ (Except Exception UDPHeader) :=
  match p.networkHeader with
  | none => pure (.ok ⟨0, 0⟩)
  | some ip => do
    let proto ← p.readU8 (ip + 9)
    if proto ≠ 17 then pure (.ok ⟨0, 0⟩)
    else do
      let format := ip + 20
      let sport ← p.readU16 format
      let dport ← p.readU16 (format + 2)
      let ulen ← p.readU16 (format + 4)
      let sum ← p.readU16 (format + 6)
      let structure' : UDPHeader := ⟨UInt32.ofNat (ntohs sport), UInt32.ofNat (ntohs dport)⟩
      if sum ≠ 0 then do
        let csum ← p.readCksum p.transportHeader (ntohs ulen)
        let verified ← clickInCksumPseudohdr csum p ip (ntohs ulen)
        if verified ≠ 0 then pure (.error (.invalidChecksum "UDP Header"))
        else pure (.ok structure')
      else pure (.ok structure')

def processIPHeader (p : Packet) : Logged ℕ (Except Exception IPHeader × Packet) :=
  match p.networkHeader with
  | none => pure (.ok {}, p)
  | some format => do
    let source ← p.readInAddr (format + 12)
    let destination ← p.readInAddr (format + 16)
    let checksum ← p.readU16 (format + 10)
    if checksum = 0 then pure (.error (.zeroChecksum "IP Header"), p)
    else do
      let p := p.setU16 (format + 10) 0
      let verifiedChecksum ← p.readCksum format 20
      if verifiedChecksum ≠ checksum then pure (.error (.invalidChecksum "IP Header"), p)
      else pure (.ok ⟨source, destination⟩, p.setU16 (format + 10) checksum)

def processTunnelIPPacket (p : Packet) (stripIPHeader : Bool) : Logged ℕ (TunnelIP × Packet) := do
  let source ← p.readInAddr (p.data + 12)
  let destination ← p.readInAddr (p.data + 16)
  let ttl ← p.readU8 (p.data + 8)
  let originalSource ← p.readInAddr (p.data + 20 + 12)
  let originalDestination ← p.readInAddr (p.data + 20 + 16)
  let structure' : TunnelIP :=
    { source := source
      destination := destination
      ttl := ttl
      originalIP := ⟨originalSource, originalDestination⟩ }
  if stripIPHeader = true then do
    let p := p.pull 20
    let ip := p.data
    let p := (p.setU8 (ip + 8) structure'.ttl).setU16 (ip + 10) 0
    let sum ← p.readCksum ip 20
    pure (structure', (p.setU16 (ip + 10) sum).setIPHeader ip 20)
  else pure (structure', p)

def processRouterSolicitationMessage (p : Packet) :
    Logged ℕ (Except Exception RouterSolicitation × Packet) := do
  let format := p.data + 20
  let checksum ← p.readU16 (format + 2)
  let p := p.setU16 (format + 2) 0
  let verifiedChecksum ← p.readCksum format 8
  if verifiedChecksum ≠ checksum then pure (.error (.invalidChecksum "Advertisement"), p)
  else do
    let (ip, p) ← processIPHeader (p.setU16 (format + 2) checksum)
    match ip with
    | .error e => pure (.error e, p)
    | .ok ip => pure (.ok { IP := ip }, p)

def processRegistrationRequestPacket (p : Packet) :
    Logged ℕ (Except Exception RegistrationRequest × Packet) := do
  let format := p.data + 28
  let flags ← p.readU8 (format + 1)
  let lifetime ← p.readU16 (format + 2)
  let home ← p.readInAddr (format + 4)
  let homeAgent ← p.readInAddr (format + 8)
  let careOf ← p.readInAddr (format + 12)
  let identification ← p.readNtohl (format + 20)
  let udp ← processUDPHeader p
  match udp with
  | .error e => pure (.error e, p)
  | .ok udp => do
    let (ip, p') ← processIPHeader p
    match ip with
    | .error e => pure (.error e, p')
    | .ok ip =>
      pure (.ok {
        S := bit flags 7
        B := bit flags 6
        D := bit flags 5
        M := bit flags 4
        G := bit flags 3
        r := bit flags 2
        T := bit flags 1
        x := bit flags 0
        lifetime := UInt32.ofNat (ntohs lifetime)
        home := home
        homeAgent := homeAgent
        careOf := careOf
        UDP := udp
        IP := ip
        identification := UInt32.ofNat identification }, p')

def processRegistrationReplyPacket (p : Packet) :
    Logged ℕ (Except Exception RegistrationReply × Packet) := do
  let format := p.data + 28
  let lifetime ← p.readU16 (format + 2)
  let code ← p.readU8 (format + 1)
  let home ← p.readInAddr (format + 4)
  let homeAgent ← p.readInAddr (format + 8)
  let identification ← p.readNtohl (format + 16)
  let udp ← processUDPHeader p
  match udp with
  | .error e => pure (.error e, p)
  | .ok udp => do
    let (ip, p') ← processIPHeader p
    match ip with
    | .error e => pure (.error e, p')
    | .ok ip =>
      pure (.ok {
        code := code.toUInt32
        lifetime := UInt32.ofNat (ntohs lifetime)
        home := home
        homeAgent := homeAgent
        UDP := udp
        IP := ip
        identification := UInt32.ofNat identification }, p')

end Access

end MobileIP
