import MobileIP.Proofs.Elements

/-! What the routers make of the frames that carry the messages of this protocol. -/

namespace MobileIP

/-- Whether the packet goes out on a link at once. -/
def Handoff.isSent : Handoff → Bool
  | .arpq _ _ => true
  | _ => false

def Quiet (out : List Handoff) : Prop := ∀ h ∈ out, h.isSent = false

theorem quiet_nil : Quiet [] := by simp [Quiet]

theorem quiet_rt (p : Packet) : Quiet [.rt p] := by simp [Quiet, Handoff.isSent]

theorem MobileIPAdvertiser.simpleAction_cases (a : MobileIPAdvertiser) (p : Packet) :
    a.simpleAction p = .ok (a, []) ∨ ∃ destination, a.simpleAction p =
      .ok ((a.sendAdvertisement destination).1, [(a.sendAdvertisement destination).2]) := by
  obtain ⟨r, hr⟩ := a.simpleAction_total p
  rw [hr]
  unfold simpleAction at hr
  split at hr
  · exact Or.inl hr.symm
  · exact Or.inl hr.symm
  · cases hr
  · exact Or.inr ⟨_, hr.symm⟩

theorem sendSolicitation_type (linkAddress destination : IPAddress) :
    getPacketType (MobileIPSoliciter.sendSolicitation linkAddress destination) = .solicitation ∨
      getPacketType (MobileIPSoliciter.sendSolicitation linkAddress destination) = .unkown := by
  have hnetwork : (MobileIPSoliciter.sendSolicitation linkAddress destination).networkHeader =
      some 0 := rfl
  rw [getPacketType_eq_classify hnetwork]
  split_ifs
  · exact Or.inr rfl
  · exact Or.inl rfl

theorem sendSolicitation_whole (linkAddress destination : IPAddress) :
    (MobileIPSoliciter.sendSolicitation linkAddress destination).Whole :=
  ICMPIPfy_whole (by decide) _ _ _

theorem sendAdvertisement_whole (a : MobileIPAdvertiser) (destination : IPAddress) :
    (a.sendAdvertisement destination).2.Whole :=
  ICMPIPfy_whole (by change 28 + 20 < 65536; decide) _ _ _

variable {p : Packet} (shost : EthernetAddress) {dhost : EthernetAddress}

namespace HomeRouter

variable (r : HomeRouter) (clock : Clock) (link : ℕ)

theorem mipclass_push (q : Packet) : mipclass.push q =
    match getPacketType q with
    | .registration => 1
    | .solicitation => 2
    | _ => 0 := by
  unfold MobileIPClassifier.push mipclass
  cases getPacketType q <;> rfl

theorem input_frame (hp : p.Whole)
    (hd : dhost = (if link = 0 then r.privateEther else r.publicEther) ∨ dhost.isBroadcast = true) :
    r.input clock link (frame p shost dhost) =
      r.ip clock link ((FromHost.read (frame p shost dhost)).pull 14) := by
  simp only [input, filter_frame p shost dhost hd, classifier_frame, check_frame shost dhost hp,
    if_true]

theorem input_request {d : Datagram RegistrationRequestPacket} (ht : d.payload.type = 1)
    (hs : link = 1 → d.source.Plain)
    (hd : dhost = (if link = 0 then r.privateEther else r.publicEther) ∨ dhost.isBroadcast = true) :
    (∃ out, r.input clock link (frame (d.packet RegistrationRequestPacket.bytes) shost dhost) =
        .ok (r, out) ∧ Quiet out) ∨
      r.input clock link (frame (d.packet RegistrationRequestPacket.bytes) shost dhost) =
        .ok ({ r with mipagent := (r.mipagent.processRegistration clock link d.request).1 },
          (r.mipagent.processRegistration clock link d.request).2.map Emission.handoff) := by
  have hwhole := request_whole d
  have hmoved := read_moved _ shost dhost hwhole.accepted.network hwhole.transport
  have htype := hmoved.getPacketType
  rw [r.input_frame shost clock link hwhole hd]
  generalize (FromHost.read (frame (d.packet RegistrationRequestPacket.bytes) shost dhost)).pull 14
    = q at hmoved htype ⊢
  rcases d.getPacketType_cases RegistrationRequestPacket.bytes with hreg | hother
  · have hclass : mipclass.push q = 1 := by rw [mipclass_push, htype, hreg]
    simp only [ip, hclass, if_true]
    rcases r.mipagent.push_request clock link hmoved with heq | heq
    · rw [heq]
      exact Or.inl ⟨_, rfl, quiet_nil⟩
    · rw [heq]
      exact Or.inr rfl
  · -- this is where the source address was taken for the type of a frame
    have hlink : link ≠ 1 := by
      intro hlink
      have hreg := request_type (hs hlink) ht
      rcases hother with hother | hother
      · cases hreg.symm.trans hother
      · cases hreg.symm.trans hother
    have hclass : mipclass.push q = 0 := by
      rw [mipclass_push, htype]
      rcases hother with hother | hother
      · rw [hother]
      · rw [hother]
    refine Or.inl ⟨[.rt q], ?_, quiet_rt q⟩
    simp only [ip, hclass, hlink, if_false]
    rfl

theorem input_solicitation (hp : p.Whole)
    (htype : getPacketType p = .solicitation ∨ getPacketType p = .unkown)
    (hd : dhost = r.privateEther ∨ dhost.isBroadcast = true) :
    (∃ out, r.input clock 0 (frame p shost dhost) = .ok (r, out) ∧ Quiet out) ∨
      ∃ destination, r.input clock 0 (frame p shost dhost) =
        .ok ({ r with mipadvertiser := (r.mipadvertiser.sendAdvertisement destination).1 },
          [.arpq 0 (r.mipadvertiser.sendAdvertisement destination).2]) := by
  have hmoved := read_moved p shost dhost hp.accepted.network hp.transport
  rw [← hmoved.getPacketType] at htype
  rw [r.input_frame shost clock 0 hp hd]
  generalize (FromHost.read (frame p shost dhost)).pull 14 = q at htype ⊢
  rcases htype with htype | htype
  · have hclass : mipclass.push q = 2 := by rw [mipclass_push, htype]
    have hne : ¬ (2 : ℤ) = 1 := by decide
    simp only [ip, hclass, hne, if_false, if_true]
    rcases r.mipadvertiser.simpleAction_cases q with heq | ⟨destination, heq⟩
    · rw [heq]
      exact Or.inl ⟨_, rfl, quiet_nil⟩
    · rw [heq]
      exact Or.inr ⟨destination, rfl⟩
  · have hclass : mipclass.push q = 0 := by rw [mipclass_push, htype]
    refine Or.inl ⟨[.rt q], ?_, quiet_rt q⟩
    simp only [ip, hclass]
    rfl

end HomeRouter

namespace ForeignRouter

variable (r : ForeignRouter) (clock : Clock) (ttl : UInt32) (link : ℕ)

theorem mipclass_push (q : Packet) : mipclass.push q =
    match getPacketType q with
    | .registration => 1
    | .reply => 2
    | .ipinip => 3
    | .solicitation => 4
    | _ => 0 := by
  unfold MobileIPClassifier.push mipclass
  cases getPacketType q <;> rfl

theorem input_frame (hp : p.Whole)
    (hd : dhost = (if link = 0 then r.privateEther else r.publicEther) ∨ dhost.isBroadcast = true) :
    r.input clock ttl link (frame p shost dhost) =
      r.ip clock ttl link ((FromHost.read (frame p shost dhost)).pull 14) := by
  simp only [input, filter_frame p shost dhost hd, classifier_frame, check_frame shost dhost hp,
    if_true, Option.some_ne_none, false_and, if_false]

theorem ip_agent {q : Packet} (hagent : mipclass.push q = 1 ∧ link = 0 ∨
    mipclass.push q = 2 ∧ link = 1) : r.ip clock ttl link q =
      match r.mipagent.push clock ttl link q with
      | .error e => .error e
      | .ok (mipagent, out) =>
        .ok ({ r with mipagent := mipagent }, out.map Emission.handoff) :=
  if_pos hagent

theorem ip_quiet {q : Packet} (hagent : ¬ (mipclass.push q = 1 ∧ link = 0 ∨
    mipclass.push q = 2 ∧ link = 1))
    (htype : getPacketType q = .registration ∨ getPacketType q = .reply ∨
      getPacketType q = .unkown) :
    ∃ out, r.ip clock ttl link q = .ok (r, out) ∧ Quiet out := by
  have hclass := mipclass_push q
  simp only [ip, if_neg hagent]
  rcases htype with htype | htype | htype
  · rw [htype] at hclass
    refine ⟨[], ?_, quiet_nil⟩
    simp [hclass]
  · rw [htype] at hclass
    refine ⟨[], ?_, quiet_nil⟩
    simp [hclass]
  · rw [htype] at hclass
    refine ⟨[.rt q], ?_, quiet_rt q⟩
    simp [hclass]

theorem input_request {d : Datagram RegistrationRequestPacket}
    (hd : dhost = r.privateEther ∨ dhost.isBroadcast = true) :
    (∃ out, r.input clock ttl 0 (frame (d.packet RegistrationRequestPacket.bytes) shost dhost) =
        .ok (r, out) ∧ Quiet out) ∨
      r.input clock ttl 0 (frame (d.packet RegistrationRequestPacket.bytes) shost dhost) =
        .ok ({ r with mipagent := (r.mipagent.relayRequest clock ttl d.request).1 },
          (r.mipagent.relayRequest clock ttl d.request).2.map Emission.handoff) := by
  have hwhole := request_whole d
  have hmoved := read_moved _ shost dhost hwhole.accepted.network hwhole.transport
  have htype := d.getPacketType_cases RegistrationRequestPacket.bytes
  rw [← hmoved.getPacketType] at htype
  rw [r.input_frame shost clock ttl 0 hwhole hd]
  generalize (FromHost.read (frame (d.packet RegistrationRequestPacket.bytes) shost dhost)).pull 14
    = q at hmoved htype ⊢
  by_cases hagent : mipclass.push q = 1 ∧ 0 = 0 ∨ mipclass.push q = 2 ∧ 0 = 1
  · rw [r.ip_agent clock ttl _ hagent]
    rcases r.mipagent.push_request clock ttl hmoved with heq | heq
    · rw [heq]
      exact Or.inl ⟨_, rfl, quiet_nil⟩
    · rw [heq]
      exact Or.inr rfl
  · exact Or.inl (r.ip_quiet clock ttl _ hagent htype)

theorem input_discarded {d : Datagram RegistrationRequestPacket} (hs : d.source.Plain)
    (ht : d.payload.type = 1) (hd : dhost = r.publicEther ∨ dhost.isBroadcast = true) :
    ∃ out, r.input clock ttl 1 (frame (d.packet RegistrationRequestPacket.bytes) shost dhost) =
      .ok (r, out) ∧ Quiet out := by
  have hwhole := request_whole d
  have hmoved := read_moved _ shost dhost hwhole.accepted.network hwhole.transport
  have htype := hmoved.getPacketType.trans (request_type hs ht)
  rw [r.input_frame shost clock ttl 1 hwhole hd]
  refine r.ip_quiet clock ttl _ ?_ (Or.inl htype)
  rw [mipclass_push, htype]
  decide

theorem input_reply {d : Datagram RegistrationReplyPacket}
    (hd : dhost = r.publicEther ∨ dhost.isBroadcast = true) :
    (∃ out, r.input clock ttl 1 (frame (d.packet RegistrationReplyPacket.bytes) shost dhost) =
        .ok (r, out) ∧ Quiet out) ∨
      r.input clock ttl 1 (frame (d.packet RegistrationReplyPacket.bytes) shost dhost) =
        .ok ({ r with mipagent := (r.mipagent.relayReply clock d.reply).1 },
          (r.mipagent.relayReply clock d.reply).2.map Emission.handoff) := by
  have hwhole := reply_whole d
  have hmoved := read_moved _ shost dhost hwhole.accepted.network hwhole.transport
  have htype := d.getPacketType_cases RegistrationReplyPacket.bytes
  rw [← hmoved.getPacketType] at htype
  rw [r.input_frame shost clock ttl 1 hwhole hd]
  generalize (FromHost.read (frame (d.packet RegistrationReplyPacket.bytes) shost dhost)).pull 14
    = q at hmoved htype ⊢
  by_cases hagent : mipclass.push q = 1 ∧ 1 = 0 ∨ mipclass.push q = 2 ∧ 1 = 1
  · rw [r.ip_agent clock ttl _ hagent]
    rcases r.mipagent.push_reply clock ttl hmoved with heq | heq
    · rw [heq]
      exact Or.inl ⟨_, rfl, quiet_nil⟩
    · rw [heq]
      exact Or.inr rfl
  · exact Or.inl (r.ip_quiet clock ttl _ hagent htype)

theorem input_solicitation (hp : p.Whole)
    (htype : getPacketType p = .solicitation ∨ getPacketType p = .unkown)
    (hd : dhost = r.privateEther ∨ dhost.isBroadcast = true) :
    (∃ out, r.input clock ttl 0 (frame p shost dhost) = .ok (r, out) ∧ Quiet out) ∨
      ∃ destination, r.input clock ttl 0 (frame p shost dhost) =
        .ok ({ r with mipadvertiser := (r.mipadvertiser.sendAdvertisement destination).1 },
          [.arpq 0 (r.mipadvertiser.sendAdvertisement destination).2]) := by
  have hmoved := read_moved p shost dhost hp.accepted.network hp.transport
  rw [← hmoved.getPacketType] at htype
  rw [r.input_frame shost clock ttl 0 hp hd]
  generalize (FromHost.read (frame p shost dhost)).pull 14 = q at htype ⊢
  have hclass := mipclass_push q
  rcases htype with htype | htype
  · rw [htype] at hclass
    rcases r.mipadvertiser.simpleAction_cases q with heq | ⟨destination, heq⟩
    · refine Or.inl ⟨[], ?_, quiet_nil⟩
      simp [ip, hclass, heq]
    · refine Or.inr ⟨destination, ?_⟩
      simp [ip, hclass, heq]
  · exact Or.inl (r.ip_quiet clock ttl _ (by rw [hclass, htype]; decide) (Or.inr (Or.inr htype)))

end ForeignRouter

theorem read_frame (hp : p.Whole) :
    FromHost.read (frame p shost dhost) = etherEncap p shost dhost := by
  have hbyte : (frame p shost dhost).getD 14 0 = p.u8 p.data := etherEncap_u8 p shost dhost 0
  have hnetwork : p.networkHeader.map (· - p.data + 14) = some 14 := by
    rw [hp.accepted.network, Option.map_some, Nat.sub_self]
  have htransport : p.transportHeader - p.data + 14 = 14 + 4 * ((p.u8 p.data).toNat % 16) := by
    rw [hp.transport, Nat.add_sub_cancel_left, add_comm]
  simp only [FromHost.read, hbyte, etherEncap, hnetwork, htransport]
  rfl

namespace MobileRouter

variable (r : MobileRouter) (ctx : HostContext)

theorem mipclass_push (q : Packet) : mipclass.push q =
    match getPacketType q with
    | .reply => 1
    | .advertisement => 2
    | _ => 0 := by
  unfold MobileIPClassifier.push mipclass
  cases getPacketType q <;> rfl

theorem mipclass_reply {d : Datagram RegistrationReplyPacket} (ht : d.payload.type = 3) :
    mipclass.push (FromHost.read (frame (d.packet RegistrationReplyPacket.bytes) shost dhost)) =
      1 := by
  have hwhole := reply_whole d
  have hbyte : (d.packet RegistrationReplyPacket.bytes).u8 28 = 3 :=
    (d.packet_u8 RegistrationReplyPacket.bytes 0).trans ht
  have htype : getPacketType (FromHost.read (frame (d.packet RegistrationReplyPacket.bytes) shost
      dhost)) = .reply := by
    rw [read_frame shost hwhole, getPacketType_etherEncap hwhole.accepted.network]
    have hproto : (d.packet RegistrationReplyPacket.bytes).u8 (0 + 9) = 17 := rfl
    have hdata : (d.packet RegistrationReplyPacket.bytes).data = 0 := rfl
    rw [hdata, hproto]
    simp [classify, hbyte]
  rw [mipclass_push, htype]

/-- A reply is handled by the node, or has no effect, or its exception is not caught. -/
theorem input_reply {d : Datagram RegistrationReplyPacket} (ht : d.payload.type = 3)
    (hd : dhost = r.ether ∨ dhost.isBroadcast = true) :
    (∃ e, r.input ctx (frame (d.packet RegistrationReplyPacket.bytes) shost dhost) = .error e) ∨
      r.input ctx (frame (d.packet RegistrationReplyPacket.bytes) shost dhost) = .ok (r, []) ∨
      ∃ MN out, r.host.MN.receiveReply ctx.send d.reply = .ok (MN, out) ∧
        r.input ctx (frame (d.packet RegistrationReplyPacket.bytes) shost dhost) =
          .ok ({ r with host := { r.host with MN := MN } }, out.map Emission.handoff) := by
  have hwhole := reply_whole d
  have hmoved := read_moved _ shost dhost hwhole.accepted.network hwhole.transport
  have hclass : mipclass.push (FromHost.read (frame (d.packet RegistrationReplyPacket.bytes) shost
      dhost)) = 1 := mipclass_reply shost ht
  simp only [input, filter_frame _ shost dhost hd, classifier_frame, hclass, if_true]
  rcases r.host.MN.push_reply ctx.send hmoved with ⟨e, heq⟩ | heq | heq
  · rw [heq]
    exact Or.inl ⟨e, rfl⟩
  · rw [heq]
    exact Or.inr (Or.inl rfl)
  · rw [heq]
    cases hr : r.host.MN.receiveReply ctx.send d.reply with
    | error e => exact Or.inl ⟨e, rfl⟩
    | ok res => exact Or.inr (Or.inr ⟨res.1, res.2, rfl, rfl⟩)

/-- An advertisement makes the node register with the agent that sent it, or leaves the node alone.
Where its header has the checksum 0, an unset advertisement from 0.0.0.0 takes its place. -/
theorem input_advertisement (a : MobileIPAdvertiser) (destination : IPAddress)
    (hd : dhost = r.ether ∨ dhost.isBroadcast = true) :
    ∃ host out, r.input ctx (frame (a.sendAdvertisement destination).2 shost dhost) =
        .ok ({ r with host := host }, out.map Emission.handoff) ∧
      ((host.MN = r.host.MN ∧ out = []) ∨ ∃ address careOfAddress lifetime,
        (address = a.linkAddress ∧ careOfAddress = a.careOfAddress ∨
          address = .zero ∧ careOfAddress = .zero) ∧
        r.host.MN.reregister ctx.send address careOfAddress lifetime = (host.MN, out)) := by
  have hread : FromHost.read (frame (a.sendAdvertisement destination).2 shost dhost) =
      etherEncap (a.sendAdvertisement destination).2 shost dhost :=
    read_frame shost (sendAdvertisement_whole a destination)
  have hclass : mipclass.push (FromHost.read (frame (a.sendAdvertisement destination).2 shost
      dhost)) = 2 := by
    rw [mipclass_push, hread]
    change (match getPacketType (a.frame destination shost dhost) with
      | .reply => (1 : ℤ)
      | .advertisement => 2
      | _ => 0) = 2
    rw [a.frame_type]
  have hne : ¬ (2 : ℤ) = 1 := by decide
  simp only [input, filter_frame _ shost dhost hd, classifier_frame, hclass, hne, if_true, if_false]
  rw [hread]
  obtain ⟨⟨host, out⟩, hs⟩ := r.host.simpleAction_total ctx.now ctx.send ctx.unset
    (etherEncap (a.sendAdvertisement destination).2 shost dhost)
  rw [hs]
  refine ⟨host, out, rfl, ?_⟩
  have hcases := MobileHost.simpleAction_cases hs
  rcases hcases with ⟨-, rfl, rfl⟩ | ⟨adv, hadv, heq⟩
  · exact Or.inl ⟨rfl, rfl⟩
  · have hnode := r.host.processAdvertisement_node ctx.now ctx.send (processEtherHeader (etherEncap
      (a.sendAdvertisement destination).2 shost dhost) true).1 adv
    rw [heq] at hnode
    refine hnode.imp_right fun hreg => ⟨_, _, _, ?_, hreg⟩
    simp only [HostEvent.advertised] at hadv
    split_ifs at hadv
    cases hok : (processRouterAdvertisementMessage (processEtherHeader (etherEncap
      (a.sendAdvertisement destination).2 shost dhost) true).2).1 with
    | error e =>
      rw [hok] at hadv
      cases hadv
      exact Or.inr ⟨rfl, rfl⟩
    | ok adv' =>
      rw [hok] at hadv
      cases hadv
      rw [((a.advertisement_read_iff destination shost dhost adv).1 hok).2]
      exact Or.inl ⟨rfl, rfl⟩

end MobileRouter

end MobileIP
