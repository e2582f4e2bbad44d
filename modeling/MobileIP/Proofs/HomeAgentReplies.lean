import MobileIP.Proofs.Agreement

/-! What the home agent answers is what it did, for every packet in every state it can get into. -/

namespace MobileIP

namespace MobilityBindingList

theorem filter_ne_add (h c : IPAddress) (lifetime : UInt32) (l : MobilityBindingList) :
    (add h c lifetime l).filter (fun it => !decide (it.homeAddress = h ∧ it.careOfAddress = c)) =
      l.filter fun it => !decide (it.homeAddress = h ∧ it.careOfAddress = c) := by
  induction l with
  | nil => simp [add]
  | cons it rest ih =>
    unfold add
    split_ifs with hk
    · rw [List.filter_cons_of_neg (by simp [hk]), List.filter_cons_of_neg (by simp [hk])]
    · rw [List.filter_cons_of_pos (by simp [hk]), List.filter_cons_of_pos (by simp [hk]), ih]

end MobilityBindingList

namespace MobileIPHomeAgent

variable {ha ha' : MobileIPHomeAgent} {registration : RegistrationRequest}

structure Addressed (registration : RegistrationRequest) (reply : RegistrationReply) : Prop where
  home : reply.home = registration.home
  identification : reply.identification = registration.identification
  destination : reply.IP.destination = registration.IP.source
  port : reply.UDP.destinationPort = registration.UDP.sourcePort

/-- The reply tells what became of the request, in the state `ha'` that follows `ha`. -/
structure Truthful (ha ha' : MobileIPHomeAgent) (registration : RegistrationRequest)
    (reply : RegistrationReply) : Prop extends Addressed registration reply where
  refused : reply.code ≠ 0 → ha'.mobilityBindings = ha.mobilityBindings
  bound : reply.code = 0 → registration.lifetime ≠ 0 →
    reply.lifetime = min registration.lifetime ha.maxAcceptedLifetime ∧
    (ha'.mobilityBindings.filter fun it =>
      decide (it.homeAddress = registration.home ∧ it.careOfAddress = registration.careOf)).map
        MobilityBindingListItem.remainingLifetime = [reply.lifetime] ∧
    (ha'.mobilityBindings.filter fun it =>
      !decide (it.homeAddress = registration.home ∧ it.careOfAddress = registration.careOf)) =
        ha.mobilityBindings.filter fun it =>
          !decide (it.homeAddress = registration.home ∧ it.careOfAddress = registration.careOf)
  unbound : reply.code = 0 → registration.lifetime = 0 → reply.lifetime = 0 ∧
    ha'.mobilityBindings = ha.mobilityBindings.filter fun it =>
      !decide (it.homeAddress = registration.home ∧
        (registration.careOf = registration.home ∨ it.careOfAddress = registration.careOf))

def replyTo (clock : Clock) (registration : RegistrationRequest) (lifetime : UInt32) (code : UInt8)
    (homeAgent source : IPAddress) : Datagram RegistrationReplyPacket :=
  UDPIPfy (buildRegistrationReplyPacket clock lifetime code registration.home homeAgent
    registration.identification) source 434 registration.IP.source registration.UDP.sourcePort 1

theorem sendReply_eq (ha : MobileIPHomeAgent) (clock : Clock) (registration : RegistrationRequest)
    (code : UInt8) (port : ℕ) (lifetime : UInt32) :
    ∃ output source, ha.sendReply clock registration code port lifetime =
      [⟨output, .reply (replyTo clock registration lifetime code registration.homeAgent source)⟩] :=
  ⟨_, _, rfl⟩

theorem processRegistration_refuses (h : ¬ ha.Admits registration) (clock : Clock) (port : ℕ) :
    (ha.processRegistration clock port registration).2 = [] ∨
      ∃ output lifetime code homeAgent source, code ≠ 0 ∧
        (ha.processRegistration clock port registration).2 =
          [⟨output, .reply (replyTo clock registration lifetime code homeAgent source)⟩] := by
  rcases processRegistration_stops h clock port with heq | heq
  · rw [heq, checkRegistrationValidity]
    split_ifs
    · exact Or.inl rfl
    · exact Or.inr ⟨_, _, 134, _, _, by decide, rfl⟩
    · exact Or.inr ⟨_, _, 128, _, _, by decide, rfl⟩
    · exact Or.inl rfl
  · rw [heq, checkForUnkwownHomeAgent]
    dsimp only
    by_cases hknown : registration.homeAgent = ha.publicAddress ∧
      (registration.IP.destination = ha.privateAddress ∨
        registration.IP.destination = ha.publicAddress)
    · rw [if_pos hknown]
      exact Or.inl rfl
    · rw [if_neg hknown]
      exact Or.inr ⟨_, _, 136, _, _, by decide, rfl⟩

theorem replyTo_addressed (hport : registration.UDP.sourcePort.toNat ≤ 65535) (clock : Clock)
    (lifetime : UInt32) (code : UInt8) (homeAgent source : IPAddress) :
    Addressed registration (replyTo clock registration lifetime code homeAgent source).reply :=
  ⟨rfl, rfl, rfl, toUInt32_toUInt16 hport⟩

theorem bindingsAfter_unbound (hl : registration.lifetime = 0) :
    ha.bindingsAfter registration = ha.mobilityBindings.filter fun it =>
      !decide (it.homeAddress = registration.home ∧
        (registration.careOf = registration.home ∨ it.careOfAddress = registration.careOf)) := by
  unfold bindingsAfter
  rw [if_pos hl]
  split_ifs with hc
  · simp only [MobilityBindingList.removeAll_eq, hc, true_or, and_true]
  · simp only [MobilityBindingList.remove_eq, hc, false_or]

theorem truthful_of_admits
    (hnodup : (ha.mobilityBindings.map fun it => (it.homeAddress, it.careOfAddress)).Nodup)
    (hl : registration.lifetime.toNat ≤ 65535)
    (hport : registration.UDP.sourcePort.toNat ≤ 65535) (clock : Clock)
    (homeAgent source : IPAddress) :
    Truthful ha { ha with mobilityBindings := ha.bindingsAfter registration } registration
      (replyTo clock registration (ha.lifetimeGranted registration) 0 homeAgent source).reply := by
  have hmin : (ha.lifetimeGranted registration).toNat =
      min registration.lifetime.toNat ha.maxAcceptedLifetime.toNat := UInt32.toNat_min _ _
  have hlifetime : (replyTo clock registration (ha.lifetimeGranted registration) 0 homeAgent
      source).reply.lifetime = ha.lifetimeGranted registration := toUInt32_toUInt16 (by omega)
  refine ⟨replyTo_addressed hport .., fun hcode => absurd rfl hcode, fun _ h0 => ?_, fun _ h0 => ?_⟩
  · rw [hlifetime]
    refine ⟨rfl, ?_, ?_⟩
    · have hbinding := bindingsAfter_binding h0 hnodup
      simp only [Prod.mk.injEq] at hbinding
      exact hbinding
    · simp only [bindingsAfter, if_neg h0]
      exact MobilityBindingList.filter_ne_add _ _ _ _
  · rw [hlifetime]
    refine ⟨?_, bindingsAfter_unbound h0⟩
    rw [← UInt32.toNat_inj, hmin, h0]
    exact Nat.zero_min _

theorem truthful_of_refused {code : UInt8} (hcode : code ≠ 0)
    (hport : registration.UDP.sourcePort.toNat ≤ 65535) (clock : Clock) (lifetime : UInt32)
    (homeAgent source : IPAddress) : Truthful ha ha registration
      (replyTo clock registration lifetime code homeAgent source).reply := by
  have hne : (replyTo clock registration lifetime code homeAgent source).reply.code ≠ 0 := by
    intro hzero
    have hzero : code.toUInt32 = 0 := hzero
    rw [← UInt32.toNat_inj, UInt8.toNat_toUInt32] at hzero
    exact hcode (UInt8.toNat_inj.1 hzero)
  exact ⟨replyTo_addressed hport .., fun _ => rfl, fun h => absurd h hne, fun h => absurd h hne⟩

/-- A packet is dropped and changes nothing, or it holds a request, and one reply tells what became
of it. -/
theorem reply_tells_outcome (h : ha.Reachable) (clock : Clock) (port : ℕ) (p : Packet) :
    ∃ ha' out, ha.step (.push clock port p) = .ok (ha', out) ∧
      ((out = [] ∧ ha'.mobilityBindings = ha.mobilityBindings) ∨
        ∃ registration output d, Receives (.push clock port p) clock port registration ∧
          out = [⟨output, .reply d⟩] ∧ Truthful ha ha' registration d.reply) := by
  by_cases hr : ∃ registration, Receives (.push clock port p) clock port registration
  · obtain ⟨registration, hr⟩ := hr
    have hread : (processRegistrationRequestPacket p).1 = .ok registration := by
      obtain ⟨p', heq, -, hread⟩ := hr
      obtain ⟨-, -, rfl⟩ := HAEvent.push.inj heq
      exact hread
    obtain ⟨hport, hlifetime⟩ := processRegistrationRequestPacket_fields hread
    refine ⟨_, _, hr.step ha, ?_⟩
    by_cases hadm : ha.Admits registration
    · rw [processRegistration_of_admits hadm]
      obtain ⟨output, source, heq⟩ := ha.sendReply_eq clock registration 0 port
        (ha.lifetimeGranted registration)
      exact Or.inr ⟨registration, output, _, hr, heq, truthful_of_admits h.nodup
        hlifetime hport clock _ source⟩
    · rw [(processRegistration_of_not_admits hadm clock port).1]
      rcases processRegistration_refuses hadm clock port with hnil |
        ⟨output, lifetime, code, homeAgent, source, hcode, heq⟩
      · exact Or.inl ⟨hnil, rfl⟩
      · exact Or.inr ⟨registration, output, _, hr, heq,
          truthful_of_refused hcode hport clock lifetime homeAgent source⟩
  · exact ⟨ha, [], push_of_not_receives (not_exists.1 hr) ha, Or.inl ⟨rfl, rfl⟩⟩

section Examples

open Definitions

theorem reply_tells_outcome_binding :
    ∃ ha' registration output d, homeAgent.step (.push ⟨0, 0⟩ 1
        ((relayedRequest foreignAgentPublicAddress 100 1).packet RegistrationRequestPacket.bytes)) =
      .ok (ha', [⟨output, .reply d⟩]) ∧ Truthful homeAgent ha' registration d.reply := by
  obtain ⟨ha', out, hstep, ⟨hnil, -⟩ | ⟨registration, output, d, -, hout, htrue⟩⟩ :=
    reply_tells_outcome ⟨homeAgent, [], rfl, .nil⟩ ⟨0, 0⟩ 1
      ((relayedRequest foreignAgentPublicAddress 100 1).packet RegistrationRequestPacket.bytes)
  · have hanswered : (homeAgent.step (.push ⟨0, 0⟩ 1 ((relayedRequest foreignAgentPublicAddress 100
        1).packet RegistrationRequestPacket.bytes))).toOption.map (·.2.length) = some 1 := by
      decide +kernel
    rw [hstep, hnil] at hanswered
    cases hanswered
  · exact ⟨ha', registration, output, d, hout ▸ hstep, htrue⟩

end Examples

end MobileIPHomeAgent

end MobileIP
