import MobileIP.Proofs.Advertisements
import MobileIP.Proofs.HomeAgentReplies
import MobileIP.Proofs.Relay

/-! The requests that the foreign agent relays, as the home agent reads and answers them. -/

namespace MobileIP

structure RegistrationRequest.Same (registration relayed : RegistrationRequest) : Prop where
  lifetime : relayed.lifetime = registration.lifetime
  home : relayed.home = registration.home
  homeAgent : relayed.homeAgent = registration.homeAgent
  careOf : relayed.careOf = registration.careOf
  identification : relayed.identification = registration.identification
  S : relayed.S = registration.S
  B : relayed.B = registration.B
  D : relayed.D = registration.D
  M : relayed.M = registration.M
  G : relayed.G = registration.G
  r : relayed.r = registration.r
  T : relayed.T = registration.T
  x : relayed.x = registration.x

namespace MobileIPForeignAgent

variable {fa fa' : MobileIPForeignAgent} {e : FAEvent} {clock : Clock} {ttl : UInt32}
  {registration : RegistrationRequest} {d : Datagram RegistrationRequestPacket}

structure Relays (fa : MobileIPForeignAgent) (e : FAEvent) (clock : Clock) (ttl : UInt32)
    (registration : RegistrationRequest) (fa' : MobileIPForeignAgent)
    (d : Datagram RegistrationRequestPacket) : Prop where
  received : ReceivesRequest e clock ttl registration
  step : fa.step e = .ok (fa', [⟨1, .request d⟩])

theorem Relays.spec (h : fa.Relays e clock ttl registration fa' d) :
    fa.Passes registration ∧ registration.lifetime.toNat ≤ 65535 ∧
      fa' = { fa with requests := fa.requests ++ [fa.pendingItem ttl registration] } ∧
      d = fa.relayedDatagram clock registration := by
  have hs := h.step
  rw [h.received.step fa, Except.ok.injEq] at hs
  obtain ⟨p, -, -, hread⟩ := h.received
  have hlifetime := (processRegistrationRequestPacket_fields hread).2
  rcases relayRequest_emits hs with ⟨-, hout | ⟨d', hout⟩⟩ | ⟨hfa, hout⟩
  · cases hout
  · cases hout
  obtain ⟨-, hmessage⟩ := Emission.mk.inj (List.singleton_inj.1 hout)
  refine ⟨?_, hlifetime, hfa, RegistrationMessage.request.inj hmessage⟩
  cases hcheck : fa.checkRequestValidity clock registration with
  | mk valid out =>
    cases valid with
    | true => exact passes_of_checkRequestValidity hcheck
    | false =>
      -- a request that fails the check is not added to the list
      have hsame : fa' = fa := by
        rw [relayRequest, hcheck] at hs
        exact (Prod.mk.inj hs).1.symm
      have hlength := congrArg (fun s => s.requests.length) (hsame.symm.trans hfa)
      simp at hlength

theorem relayedDatagram_identification (fa : MobileIPForeignAgent) (clock : Clock)
    (registration : RegistrationRequest) :
    (fa.relayedDatagram clock registration).request.identification =
      if registration.identification = 0 then clock.steady else registration.identification := rfl

/-- The request on the wire is the one that came in, and the entry made for it has its
identification. -/
def RelaysUnaltered (fa fa' : MobileIPForeignAgent) (registration : RegistrationRequest)
    (d : Datagram RegistrationRequestPacket) : Prop :=
  ∃ relayed item,
    (processRegistrationRequestPacket (d.packet RegistrationRequestPacket.bytes)).1 = .ok relayed ∧
    registration.Same relayed ∧ fa'.requests = fa.requests ++ [item] ∧
    item.identification = relayed.identification

/-- A request is relayed unaltered exactly if the two flags that are not checked are clear, the
builder does not take its identification for none, and the checksum of the new header is not 0. -/
theorem relayed_unaltered_iff (h : fa.Relays e clock ttl registration fa' d) :
    fa.RelaysUnaltered fa' registration d ↔
      registration.S = false ∧ registration.B = false ∧
        (registration.identification ≠ 0 ∨ clock.steady = 0) ∧
        headerSum 52 16 17 fa.careOfAddress registration.homeAgent ≠ 0 := by
  obtain ⟨hpasses, hlifetime, rfl, rfl⟩ := h.spec
  have hid := relayedDatagram_identification fa clock registration
  constructor
  · intro hun
    obtain ⟨relayed, item, hread, hsame, -⟩ := hun
    obtain ⟨hsum, rfl⟩ := (Datagram.request_read_iff _ _).1 hread
    refine ⟨hsame.S.symm, hsame.B.symm, ?_, hsum⟩
    have heq := hid.symm.trans hsame.identification
    by_cases h0 : registration.identification = 0
    · rw [if_pos h0, h0] at heq
      exact Or.inr heq
    · exact Or.inl h0
  · intro hcond
    obtain ⟨hS, hB, h0, hsum⟩ := hcond
    have hsame : (fa.relayedDatagram clock registration).request.identification =
        registration.identification := by
      rw [hid]
      split_ifs with hzero
      · rw [hzero]
        exact h0.resolve_left (not_not.2 hzero)
      · rfl
    refine ⟨_, _, (Datagram.request_read_iff _ _).2 ⟨hsum, rfl⟩, ?_, rfl, hsame.symm⟩
    exact
      { lifetime := toUInt32_toUInt16 hlifetime
        home := rfl
        homeAgent := rfl
        careOf := hpasses.careOf.symm
        identification := hsame
        S := hS.symm
        B := hB.symm
        D := hpasses.options.1.symm
        M := hpasses.encapsulation.1.symm
        G := hpasses.encapsulation.2.symm
        r := hpasses.reserved.1.symm
        T := hpasses.options.2.symm
        x := hpasses.reserved.2.symm }

section Examples

open Definitions

def relayedBy (registration : RegistrationRequest) : MobileIPForeignAgent :=
  { foreignAgent with requests := [foreignAgent.pendingItem 0 registration] }

theorem relays_requestFrom (lifetime identification : UInt32) (hlifetime : lifetime.toNat ≤ 1800)
    (htype : getPacketType ((requestFrom lifetime identification).packet
      RegistrationRequestPacket.bytes) = .registration) (clock : Clock) :
    foreignAgent.Relays (.push clock 0 0 ((requestFrom lifetime identification).packet
      RegistrationRequestPacket.bytes)) clock 0 (requestFrom lifetime identification).request
      (relayedBy (requestFrom lifetime identification).request)
      (foreignAgent.relayedDatagram clock (requestFrom lifetime identification).request) := by
  have hsum : headerSum 52 1 17 mobileNodeAddress foreignAgentPrivateAddress ≠ 0 := by decide
  have hread := (Datagram.request_read_iff (requestFrom lifetime identification) _).2 ⟨hsum, rfl⟩
  have hpasses : foreignAgent.Passes (requestFrom lifetime identification).request :=
    ⟨rfl, ⟨rfl, rfl⟩, rfl, ⟨rfl, rfl⟩, by decide, ⟨rfl, rfl⟩⟩
  have hl : (requestFrom lifetime identification).request.lifetime.toNat ≤ 1800 := by
    rw [show (requestFrom lifetime identification).request.lifetime = lifetime from
      toUInt32_toUInt16 (by omega)]
    exact hlifetime
  have hrec : ReceivesRequest _ clock 0 _ := ⟨_, rfl, htype, hread⟩
  refine ⟨hrec, ?_⟩
  rw [hrec.step, relayRequest_of_passes hpasses hl]
  rfl

theorem relayed_unaltered_first :
    foreignAgent.RelaysUnaltered (relayedBy (requestFrom 100 7).request)
      (requestFrom 100 7).request
      (foreignAgent.relayedDatagram ⟨0, 0⟩ (requestFrom 100 7).request) :=
  (relayed_unaltered_iff (relays_requestFrom 100 7 (by decide) (by decide +kernel) ⟨0, 0⟩)).2
    ⟨rfl, rfl, Or.inl (by decide), by decide⟩

/-- A request with the identification 0 is given the reading of another clock on its way. -/
theorem zero_identification_altered :
    ¬ ∀ (fa : MobileIPForeignAgent) e clock ttl registration fa' d, fa.Relays e clock ttl registration fa' d →
      fa.RelaysUnaltered fa' registration d := by
  intro hall
  obtain ⟨relayed, item, hread, hsame, -⟩ := hall _ _ _ _ _ _ _
    (relays_requestFrom 100 0 (by decide) (by decide +kernel) ⟨0, 17⟩)
  obtain ⟨-, rfl⟩ := (Datagram.request_read_iff _ _).1 hread
  exact absurd hsame.identification (by decide)

end Examples

end MobileIPForeignAgent

namespace MobileIPHomeAgent

variable {ha ha' : MobileIPHomeAgent} {registration : RegistrationRequest} {clock : Clock}
  {out : List Emission}

end MobileIPHomeAgent

section Exchange

variable {fa fa' : MobileIPForeignAgent} {ha ha' : MobileIPHomeAgent} {e : FAEvent}
  {clock clock' : Clock} {ttl : UInt32} {registration : RegistrationRequest}
  {d : Datagram RegistrationRequestPacket} {out : List Emission}

end Exchange

section Examples

open Definitions

def relayed (lifetime : UInt32) : Datagram RegistrationRequestPacket :=
  foreignAgent.relayedDatagram ⟨0, 0⟩ (requestFrom lifetime 7).request

end Examples

end MobileIP
