import MobileIP.Proofs.Datagrams
import MobileIP.Spec.Advertiser

/-! The advertisements that the builder writes, the reader reads. -/

namespace MobileIP

namespace MobileIPAdvertiser

variable (a : MobileIPAdvertiser) (destination : IPAddress) (shost dhost : EthernetAddress)

def frame : Packet := etherEncap (a.sendAdvertisement destination).2 shost dhost

def advertisement : RouterAdvertisement where
  lifetime := a.lifetime.toUInt16.toUInt32
  code := 0
  sequenceNumber := a.sequenceNumber.toUInt16.toUInt32
  registrationLifetime := a.registrationLifetime.toUInt16.toUInt32
  homeAgent := a.isHomeAgent
  foreignAgent := a.isHomeAgent
  careOfAddress := a.careOfAddress
  IP := ⟨a.linkAddress, destination⟩

def message : List UInt8 :=
  buildRouterAdvertisementMessage a.lifetime a.registrationLifetime a.careOfAddress
    a.sequenceNumber a.isHomeAgent a.isForeignAgent

theorem frame_buffer : (a.frame destination shost dhost).buffer =
    dhost.eth.toList ++ shost.eth.toList ++ [8, 0] ++ (ipHeaderBytes 0 48 1 1
      (headerSum 48 1 1 a.linkAddress destination) a.linkAddress destination ++ a.message) := rfl

theorem frame_type : getPacketType (a.frame destination shost dhost) = .advertisement := by
  rw [frame, getPacketType_etherEncap rfl]
  rfl

theorem frame_stripped : ((processEtherHeader (a.frame destination shost dhost) true).2).Headed
    (dhost.eth.toList ++ shost.eth.toList ++ [8, 0]) a.message 48 1 1 a.linkAddress destination :=
  ⟨by rw [List.append_assoc]; rfl, by rw [length_etherHeader]; rfl⟩

theorem routerAdvertisementBytes_setWord (sum sum' : ℕ) :
    setWord (routerAdvertisementBytes a.lifetime a.registrationLifetime a.careOfAddress
        a.sequenceNumber a.isHomeAgent a.isForeignAgent sum) 2 sum' =
      routerAdvertisementBytes a.lifetime a.registrationLifetime a.careOfAddress a.sequenceNumber
        a.isHomeAgent a.isForeignAgent sum' := by
  simp only [setWord, routerAdvertisementBytes, host16, List.cons_append, List.nil_append,
    List.append_assoc, List.set_cons_succ, List.set_cons_zero]

theorem word_routerAdvertisementBytes {sum : ℕ} (h : sum < 65536) :
    word (routerAdvertisementBytes a.lifetime a.registrationLifetime a.careOfAddress
      a.sequenceNumber a.isHomeAgent a.isForeignAgent sum) 2 = sum := by
  simp only [word, routerAdvertisementBytes, host16, List.cons_append, List.nil_append,
    List.append_assoc, List.getD_cons_succ, List.getD_cons_zero]
  exact host16_toNat h

theorem message_checksum : clickInCksum (setWord a.message 2 0) = word a.message 2 := by
  rw [message, buildRouterAdvertisementMessage, routerAdvertisementBytes_setWord,
    word_routerAdvertisementBytes _ (clickInCksum_lt _)]

theorem bit_homeAgent (homeAgent foreignAgent : Bool) :
    bit (UInt8.ofNat (16 * foreignAgent.toNat + 32 * homeAgent.toNat + 128)) 5 = homeAgent := by
  revert homeAgent foreignAgent
  decide

theorem routerAdvertisementBytes_fields (sum : ℕ) :
    let bytes := routerAdvertisementBytes a.lifetime a.registrationLifetime a.careOfAddress
      a.sequenceNumber a.isHomeAgent a.isForeignAgent sum
    (UInt32.ofNat (ntohs (word bytes 6)) = a.lifetime.toUInt16.toUInt32 ∧
      UInt32.ofNat (ntohs (word bytes 18)) = a.sequenceNumber.toUInt16.toUInt32 ∧
      UInt32.ofNat (ntohs (word bytes 20)) = a.registrationLifetime.toUInt16.toUInt32) ∧
      bytes.getD 1 0 = 0 ∧ bit (bytes.getD 22 0) 5 = a.isHomeAgent ∧
      (⟨bytes.getD 24 0, bytes.getD 25 0, bytes.getD 26 0, bytes.getD 27 0⟩ : IPAddress) =
        a.careOfAddress := by
  intro bytes
  have hbytes : bytes = [9, 0, UInt8.ofNat sum, UInt8.ofNat (sum / 256), 1, 2,
      UInt8.ofNat (a.lifetime.toNat / 256), UInt8.ofNat a.lifetime.toNat, a.careOfAddress.a,
      a.careOfAddress.b, a.careOfAddress.c, a.careOfAddress.d, 0, 0, 0, 1, 16, 10,
      UInt8.ofNat (a.sequenceNumber.toNat / 256), UInt8.ofNat a.sequenceNumber.toNat,
      UInt8.ofNat (a.registrationLifetime.toNat / 256), UInt8.ofNat a.registrationLifetime.toNat,
      UInt8.ofNat (16 * a.isForeignAgent.toNat + 32 * a.isHomeAgent.toNat + 128), 0,
      a.careOfAddress.a, a.careOfAddress.b, a.careOfAddress.c, a.careOfAddress.d] := rfl
  rw [hbytes]
  have hnet : ∀ (x : UInt32) (w : ℕ), w = (UInt8.ofNat (x.toNat / 256)).toNat +
      256 * (UInt8.ofNat x.toNat).toNat → UInt32.ofNat (ntohs w) = x.toUInt16.toUInt32 := by
    intro x w hw
    rw [hw, ntohs_net16, ofNat_mod_toUInt16]
  refine ⟨⟨hnet a.lifetime _ ?_, hnet a.sequenceNumber _ ?_, hnet a.registrationLifetime _ ?_⟩, rfl,
    ?_, rfl⟩
  · rfl
  · rfl
  · rfl
  · exact bit_homeAgent a.isHomeAgent a.isForeignAgent

theorem processRouterAdvertisementMessage_message {q : Packet} {front : List UInt8}
    (hbuffer : q.buffer = front ++ a.message) (hfront : front.length = q.data + 20) :
    (processRouterAdvertisementMessage q).1 =
      (processIPHeader q).1.map fun ip => { a.advertisement destination with IP := ip } := by
  have hword : ∀ i, q.u16 (q.data + 20 + i) = word a.message i := by
    intro i
    rw [← Packet.u16_append hbuffer, hfront]
  have hbyte : ∀ i, q.u8 (q.data + 20 + i) = a.message.getD i 0 := by
    intro i
    rw [← Packet.u8_append hbuffer, hfront]
  have hslice : q.slice (q.data + 20) 28 = a.message := by
    rw [← hfront, Packet.slice_append hbuffer]
    rfl
  have hsum : clickInCksum ((q.setU16 (q.data + 20 + 2) 0).slice (q.data + 20) 28) =
      q.u16 (q.data + 20 + 2) := by
    rw [Packet.slice_setU16, hslice, hword]
    exact a.message_checksum
  obtain ⟨⟨hlifetime, hsequence, hregistration⟩, hcode, hflag, hcareOf⟩ :=
    a.routerAdvertisementBytes_fields (clickInCksum (routerAdvertisementBytes a.lifetime
      a.registrationLifetime a.careOfAddress a.sequenceNumber a.isHomeAgent a.isForeignAgent 0))
  change UInt32.ofNat (ntohs (word a.message 6)) = _ at hlifetime
  change UInt32.ofNat (ntohs (word a.message 18)) = _ at hsequence
  change UInt32.ofNat (ntohs (word a.message 20)) = _ at hregistration
  change a.message.getD 1 0 = 0 at hcode
  change bit (a.message.getD 22 0) 5 = _ at hflag
  change (⟨a.message.getD 24 0, a.message.getD 25 0, a.message.getD 26 0,
    a.message.getD 27 0⟩ : IPAddress) = _ at hcareOf
  simp only [processRouterAdvertisementMessage, hsum, ne_eq, not_true_eq_false, if_false,
    Packet.setU16_setU16_u16]
  obtain ⟨r, q'⟩ := processIPHeader q
  cases r with
  | error e => rfl
  | ok ip =>
    simp only [hword, hbyte, Packet.inAddr, add_assoc (q.data + 20), hlifetime, hsequence,
      hregistration, hcode, hflag, hcareOf]
    rfl

/-- The next advertisement is read as it was sent, unless the checksum of its header is 0. -/
theorem advertisement_read_iff (adv : RouterAdvertisement) :
    (processRouterAdvertisementMessage
        (processEtherHeader (a.frame destination shost dhost) true).2).1 = .ok adv ↔
      headerSum 48 1 1 a.linkAddress destination ≠ 0 ∧ adv = a.advertisement destination := by
  have hheaded := a.frame_stripped destination shost dhost
  have hdata : (processEtherHeader (a.frame destination shost dhost) true).2.data = 14 := by
    change 0 + min 14 (a.frame destination shost dhost).length = 14
    rw [Packet.length, frame_buffer, List.length_append, length_etherHeader]
    change 0 + min 14 (14 + _ - 0) = 14
    omega
  rw [a.processRouterAdvertisementMessage_message destination hheaded.buffer
    (by rw [hdata, List.length_append, length_etherHeader]; rfl)]
  by_cases h : headerSum 48 1 1 a.linkAddress destination = 0
  · rw [hheaded.processIPHeader_zero h]
    simp [h, Except.map]
  · rw [hheaded.processIPHeader h, Except.map, Except.ok.injEq]
    exact ⟨fun heq => ⟨h, heq.symm⟩, fun heq => heq.2.symm⟩

end MobileIPAdvertiser

end MobileIP
