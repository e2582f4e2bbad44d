import MobileIP.Spec.Structures

/-! Click's `Packet` as a byte buffer, the Internet checksum of `lib/in_cksum.c`, and the packet
readers of `packets/PacketProcessors.cc`. A pointer into the packet is an offset in the buffer.
A reader returns its result or the exception it throws together with the packet it leaves, since
several of them write into the packet while they check it. The host is little-endian. -/

namespace MobileIP

structure Packet where
  buffer : List UInt8
  /-- offset of `data()` -/
  data : ℕ
  /-- offset of `network_header()`, if one is set -/
  networkHeader : Option ℕ
  /-- offset of `transport_header()` -/
  transportHeader : ℕ
deriving DecidableEq, Repr

namespace Packet

def bytes (p : Packet) : List UInt8 := p.buffer.drop p.data

def length (p : Packet) : ℕ := p.buffer.length - p.data

def u8 (p : Packet) (i : ℕ) : UInt8 := p.buffer.getD i 0

def u16 (p : Packet) (i : ℕ) : ℕ := (p.u8 i).toNat + 256 * (p.u8 (i + 1)).toNat

def inAddr (p : Packet) (i : ℕ) : IPAddress := ⟨p.u8 i, p.u8 (i + 1), p.u8 (i + 2), p.u8 (i + 3)⟩

def slice (p : Packet) (i len : ℕ) : List UInt8 := (p.buffer.drop i).take len

def setU8 (p : Packet) (i : ℕ) (b : UInt8) : Packet := { p with buffer := p.buffer.set i b }

def setU16 (p : Packet) (i w : ℕ) : Packet :=
  (p.setU8 i (UInt8.ofNat w)).setU8 (i + 1) (UInt8.ofNat (w / 256))

def pull (p : Packet) (len : ℕ) : Packet := { p with data := p.data + min len p.length }

def take (p : Packet) (len : ℕ) : Packet :=
  { p with buffer := p.buffer.take (p.buffer.length - min len p.length) }

def setIPHeader (p : Packet) (ip len : ℕ) : Packet :=
  { p with networkHeader := some ip, transportHeader := ip + len }

end Packet

def ntohs (w : ℕ) : ℕ := w % 256 * 256 + w / 256 % 256

/-- `htons` of the low 16 bits: the same exchange of bytes. -/
def htons (w : ℕ) : ℕ := ntohs w

def ntohl (p : Packet) (i : ℕ) : ℕ := 65536 * ntohs (p.u16 i) + ntohs (p.u16 (i + 2))

def bit (b : UInt8) (i : ℕ) : Bool := b.toNat.testBit i

/-- The sum of the 16-bit words, an odd last byte taken as the low byte of a word. No call covers
more than 65535 bytes, so the 32-bit accumulator does not wrap. -/
def wordSum : List UInt8 → ℕ
  | [] => 0
  | [b] => b.toNat
  | b :: b' :: rest => b.toNat + 256 * b'.toNat + wordSum rest

/-- Adds the carries from the top 16 bits back in, twice, and keeps the low 16 bits. -/
def foldCarries (sum : ℕ) : ℕ :=
  let sum := sum % 65536 + sum / 65536
  (sum + sum / 65536) % 65536

def clickInCksum (bytes : List UInt8) : ℕ := 65535 - foldCarries (wordSum bytes)

def clickInCksumPseudohdrRaw (csum : ℕ) (src dst : IPAddress) (proto packetLen : ℕ) : ℕ :=
  let words (a : IPAddress) := wordSum [a.a, a.b, a.c, a.d]
  65535 - foldCarries (65535 - csum + words src + words dst + htons packetLen + htons proto)

/-- The option scan of `click_in_cksum_pseudohdr_hard`: the destination a source routing option
names, if there is one between `opt` and `endOpt`. Every round advances, so `endOpt - opt` rounds
are enough. -/
def sourceRoute (p : Packet) (endOpt : ℕ) : ℕ → ℕ → Option IPAddress
  | 0, _ => none
  | fuel + 1, opt =>
    if endOpt ≤ opt then none
    else if p.u8 opt = 1 then sourceRoute p endOpt fuel (opt + 1)
    else if p.u8 opt = 0 then none
    else
      let len := (p.u8 (opt + 1)).toNat
      if endOpt ≤ opt + 1 ∨ len < 2 ∨ endOpt < opt + len then none
      else if (p.u8 opt = 137 ∨ p.u8 opt = 131) ∧ 7 ≤ len then some (p.inAddr (opt + len - 4))
      else sourceRoute p endOpt fuel (opt + len)

def clickInCksumPseudohdr (csum : ℕ) (p : Packet) (iph packetLen : ℕ) : ℕ :=
  let src := p.inAddr (iph + 12)
  let dst := p.inAddr (iph + 16)
  let proto := (p.u8 (iph + 9)).toNat
  let hl := (p.u8 iph).toNat % 16
  if hl = 5 then clickInCksumPseudohdrRaw csum src dst proto packetLen
  else
    match sourceRoute p (iph + 4 * hl) (4 * hl) (iph + 20) with
    | some daddr => clickInCksumPseudohdrRaw csum src daddr proto packetLen
    | none => clickInCksumPseudohdrRaw csum src dst proto packetLen

inductive PacketType where
  | ipinip
  | advertisement
  | solicitation
  | registration
  | reply
  | unkown
deriving DecidableEq, Repr

def getPacketType (p : Packet) : PacketType :=
  let etherOffset := if p.u16 (p.data + 12) = htons 0x0800 then 14 else 0
  match p.networkHeader with
  | none => .unkown
  | some ip =>
    let proto := p.u8 (ip + 9)
    if proto = 1 then
      let format := p.data + 20 + etherOffset
      if p.u8 format = 9 ∧ (p.u8 (format + 1) = 16 ∨ p.u8 (format + 1) = 0) then .advertisement
      else if p.u8 format = 10 then .solicitation
      else .unkown
    else if proto = 4 then .ipinip
    else if proto = 17 then
      let format := p.data + 28 + etherOffset
      if p.u8 format = 1 then .registration
      else if p.u8 format = 3 then .reply
      else .unkown
    else .unkown

def processEtherHeader (p : Packet) (stripHeader : Bool) : EtherHeader × Packet :=
  let structure' : EtherHeader :=
    { source := ⟨Vector.ofFn fun i => p.u8 (p.data + 6 + i)⟩
      destination := ⟨Vector.ofFn fun i => p.u8 (p.data + i)⟩ }
  (structure', if stripHeader then p.pull 14 else p)

/-- Without a network header, or on another protocol, the source returns an unset structure;
`getPacketType` keeps its callers away from that case. -/
def processUDPHeader (p : Packet) : Except Exception UDPHeader :=
  match p.networkHeader with
  | none => .ok ⟨0, 0⟩
  | some ip =>
    if p.u8 (ip + 9) ≠ 17 then .ok ⟨0, 0⟩
    else
      let format := ip + 20
      let structure' : UDPHeader :=
        ⟨UInt32.ofNat (ntohs (p.u16 format)), UInt32.ofNat (ntohs (p.u16 (format + 2)))⟩
      let length := ntohs (p.u16 (format + 4))
      if p.u16 (format + 6) ≠ 0 then
        let csum := clickInCksum (p.slice p.transportHeader length)
        if clickInCksumPseudohdr csum p ip length ≠ 0 then .error (.invalidChecksum "UDP Header")
        else .ok structure'
      else .ok structure'

def processIPHeader (p : Packet) : Except Exception IPHeader × Packet :=
  match p.networkHeader with
  | none => (.ok {}, p)
  | some format =>
    let structure' : IPHeader := ⟨p.inAddr (format + 12), p.inAddr (format + 16)⟩
    let checksum := p.u16 (format + 10)
    if checksum = 0 then (.error (.zeroChecksum "IP Header"), p)
    else
      -- the field is zeroed in the packet itself and only restored on success
      let p := p.setU16 (format + 10) 0
      if clickInCksum (p.slice format 20) ≠ checksum then
        (.error (.invalidChecksum "IP Header"), p)
      else (.ok structure', p.setU16 (format + 10) checksum)

def processTunnelIPPacket (p : Packet) (stripIPHeader : Bool) : TunnelIP × Packet :=
  let structure' : TunnelIP :=
    { source := p.inAddr (p.data + 12)
      destination := p.inAddr (p.data + 16)
      ttl := p.u8 (p.data + 8)
      originalIP := ⟨p.inAddr (p.data + 20 + 12), p.inAddr (p.data + 20 + 16)⟩ }
  if stripIPHeader then
    let p := p.pull 20
    let ip := p.data
    let p := (p.setU8 (ip + 8) structure'.ttl).setU16 (ip + 10) 0
    let p := p.setU16 (ip + 10) (clickInCksum (p.slice ip 20))
    (structure', p.setIPHeader ip 20)
  else (structure', p)

def processRouterAdvertisementMessage (p : Packet) : Except Exception RouterAdvertisement × Packet :=
  let format := p.data + 20
  let structure' : RouterAdvertisement :=
    { lifetime := UInt32.ofNat (ntohs (p.u16 (format + 6)))
      code := (p.u8 (format + 1)).toUInt32
      sequenceNumber := UInt32.ofNat (ntohs (p.u16 (format + 18)))
      registrationLifetime := UInt32.ofNat (ntohs (p.u16 (format + 20)))
      homeAgent := bit (p.u8 (format + 22)) 5
      foreignAgent := bit (p.u8 (format + 22)) 5
      careOfAddress := p.inAddr (format + 24) }
  let checksum := p.u16 (format + 2)
  let p := p.setU16 (format + 2) 0
  if clickInCksum (p.slice format 28) ≠ checksum then (.error (.invalidChecksum "Advertisement"), p)
  else
    match processIPHeader (p.setU16 (format + 2) checksum) with
    | (.error e, p) => (.error e, p)
    | (.ok ip, p) => (.ok { structure' with IP := ip }, p)

def processRouterSolicitationMessage (p : Packet) : Except Exception RouterSolicitation × Packet :=
  let format := p.data + 20
  let checksum := p.u16 (format + 2)
  let p := p.setU16 (format + 2) 0
  if clickInCksum (p.slice format 8) ≠ checksum then (.error (.invalidChecksum "Advertisement"), p)
  else
    match processIPHeader (p.setU16 (format + 2) checksum) with
    | (.error e, p) => (.error e, p)
    | (.ok ip, p) => (.ok { IP := ip }, p)

def processRegistrationRequestPacket (p : Packet) :
    Except Exception RegistrationRequest × Packet :=
  let format := p.data + 28
  let flags := p.u8 (format + 1)
  match processUDPHeader p with
  | .error e => (.error e, p)
  | .ok udp =>
    match processIPHeader p with
    | (.error e, p) => (.error e, p)
    | (.ok ip, p') =>
      (.ok {
        S := bit flags 7
        B := bit flags 6
        D := bit flags 5
        M := bit flags 4
        G := bit flags 3
        r := bit flags 2
        T := bit flags 1
        x := bit flags 0
        lifetime := UInt32.ofNat (ntohs (p.u16 (format + 2)))
        home := p.inAddr (format + 4)
        homeAgent := p.inAddr (format + 8)
        careOf := p.inAddr (format + 12)
        UDP := udp
        IP := ip
        identification := UInt32.ofNat (ntohl p (format + 20)) }, p')

def processRegistrationReplyPacket (p : Packet) : Except Exception RegistrationReply × Packet :=
  let format := p.data + 28
  match processUDPHeader p with
  | .error e => (.error e, p)
  | .ok udp =>
    match processIPHeader p with
    | (.error e, p) => (.error e, p)
    | (.ok ip, p') =>
      (.ok {
        code := (p.u8 (format + 1)).toUInt32
        lifetime := UInt32.ofNat (ntohs (p.u16 (format + 2)))
        home := p.inAddr (format + 4)
        homeAgent := p.inAddr (format + 8)
        UDP := udp
        IP := ip
        identification := UInt32.ofNat (ntohl p (format + 16)) }, p')

end MobileIP
