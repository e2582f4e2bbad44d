import MobileIP.Lib.Channel
import MobileIP.Proofs.Provenance
import MobileIP.Proofs.Routers
import MobileIP.Spec.Wires

/-! What the frames between the routers carry: a message in flight, or something that has no effect
on the registrations. -/

namespace MobileIP

open Channel

variable {ι : Type}

def Flight.place : Flight ι → Place ι
  | .requestToHA link _ => .agent .home link
  | .requestToFA i _ => .agent (.foreign i) 0
  | .replyToFA i _ => .agent (.foreign i) 1
  | .replyToMN _ => .node

namespace Wires

/-- The frame holds the packet, and is for the router at its place or for all. -/
def Holds (ether : Place ι → EthernetAddress) (x : Place ι × List UInt8) (p : Packet) : Prop :=
  ∃ shost dhost, (dhost = ether x.1 ∨ dhost.isBroadcast = true) ∧ x.2 = frame p shost dhost

structure Carries (ether : Place ι → EthernetAddress) (x : Place ι × List UInt8) (f : Flight ι) :
    Prop where
  place : x.1 = f.place
  holds : Holds ether x f.message.packet
  plain : ∀ d, f = .requestToHA 1 d → d.source.Plain

/-- What else there is in frames: advertisements of care-of addresses in `A`, solicitations, and
requests that come to a foreign agent from the public network. -/
inductive Other (A : IPAddress → Prop) : Place ι → Packet → Prop where
  | advertisement {a : MobileIPAdvertiser} {destination : IPAddress} :
      A a.careOfAddress → Other A .node (a.sendAdvertisement destination).2
  | solicitation {a : Agent ι} {linkAddress destination : IPAddress} :
      Other A (.agent a 0) (MobileIPSoliciter.sendSolicitation linkAddress destination)
  | request {i : ι} {d : Datagram RegistrationRequestPacket} :
      d.source.Plain → d.payload.type = 1 →
        Other A (.agent (.foreign i) 1) (d.packet RegistrationRequestPacket.bytes)

def Idles (ether : Place ι → EthernetAddress) (A : IPAddress → Prop) (x : Place ι × List UInt8) :
    Prop :=
  ∃ p, Other A x.1 p ∧ Holds ether x p

/-- The frames of the wires carry some of the messages in flight. -/
abbrev Loads (w : Wires ι) (A : IPAddress → Prop) (frames : List (Place ι × List UInt8))
    (flights : List (Flight ι)) : Prop :=
  Loaded (Carries w.ether) (Idles w.ether A) frames flights

variable {A : IPAddress → Prop} {home : IPAddress} {routes : Routes ι} {w : Wires ι}

theorem holds_send (w : Wires ι) (source destination : Place ι) (p : Packet) :
    Holds w.ether (w.send source destination p) p := by
  refine ⟨_, _, ?_, rfl⟩
  by_cases hb : p.dstIPAnno = .broadcast
  · rw [if_pos hb]
    exact Or.inr (by decide)
  · rw [if_neg hb]
    exact Or.inl rfl

theorem dstIPAnno_packet {α : Type} (d : Datagram α) (bytes : α → List UInt8) :
    (d.packet bytes).dstIPAnno = d.destination := rfl

theorem loads_fromNode {e : Emission} {d : Datagram RegistrationRequestPacket}
    (he : e = ⟨0, .request d⟩) : w.Loads A (w.fromNode routes e.handoff) (routes.fromMN e) := by
  subst he
  simp only [Emission.handoff, RegistrationMessage.packet, fromNode, Routes.fromMN,
    dstIPAnno_packet]
  cases routes.link d.destination with
  | none => exact .nil
  | some a =>
    cases a with
    | home => exact .carry ⟨rfl, holds_send _ _ _ _, fun d' hd' => by cases hd'⟩ .nil
    | foreign i => exact .carry ⟨rfl, holds_send _ _ _ _, fun d' hd' => by cases hd'⟩ .nil

variable [DecidableEq ι]

theorem loads_toNode (a : Agent ι) (d : Datagram RegistrationReplyPacket) :
    w.Loads A (w.fromAgent routes a (.arpq 0 (d.packet RegistrationReplyPacket.bytes)))
      [.replyToMN d] := by
  simp only [fromAgent, if_true]
  split_ifs
  · exact .carry ⟨rfl, holds_send _ _ _ _, fun d' hd' => by cases hd'⟩ .nil
  · exact .lost .nil

theorem loads_fromForeign {i : ι} {e : Emission} (hplain : ((w.FA i).mipagent.careOfAddress).Plain)
    (he : (∃ d, e = ⟨0, .reply d⟩ ∧ RegistrationMessage.Sound home A (.reply d)) ∨
      ∃ d, e = ⟨1, .request d⟩ ∧ d.source = (w.FA i).mipagent.careOfAddress ∧
        RegistrationMessage.Sound home A (.request d)) :
    w.Loads A (w.fromAgent routes (.foreign i) e.handoff) (routes.fromFA e) := by
  rcases he with ⟨d, rfl, -⟩ | ⟨d, rfl, hsource, hsound⟩
  · exact loads_toNode (.foreign i) d
  · have hone : ¬ (1 : ℕ) = 0 := by decide
    rw [← hsource] at hplain
    simp only [Emission.handoff, RegistrationMessage.packet, fromAgent, Routes.fromFA,
      dstIPAnno_packet, if_neg hone]
    cases routes.backbone d.destination with
    | none => exact .nil
    | some a =>
      cases a with
      | home =>
        refine .carry ⟨rfl, holds_send _ _ _ _, fun d' hd' => ?_⟩ .nil
        cases hd'
        exact hplain
      | foreign j =>
        dsimp only
        split_ifs
        · exact .nil
        · exact .idle ⟨_, .request hplain hsound.1, holds_send _ _ _ _⟩ .nil

theorem loads_fromHome {e : Emission} {output : ℕ} {d : Datagram RegistrationReplyPacket}
    (he : e = ⟨output, .reply d⟩) :
    w.Loads A (w.fromAgent routes .home e.handoff) (routes.fromHA e) := by
  subst he
  by_cases hout : output = 0
  · subst hout
    exact loads_toNode .home d
  · simp only [Emission.handoff, RegistrationMessage.packet, fromAgent, Routes.fromHA,
      dstIPAnno_packet, if_neg hout]
    cases routes.backbone d.destination with
    | none => exact .nil
    | some a =>
      cases a with
      | home =>
        dsimp only
        rw [if_pos rfl]
        exact .nil
      | foreign i =>
        have hne : ¬ Agent.foreign i = Agent.home := fun heq => by cases heq
        dsimp only
        rw [if_neg hne]
        exact .carry ⟨rfl, holds_send _ _ _ _, fun d' hd' => by cases hd'⟩ .nil

theorem loads_advertisement (a : Agent ι) {mipadvertiser : MobileIPAdvertiser}
    (hA : A mipadvertiser.careOfAddress) (destination : IPAddress) :
    w.Loads A (w.fromAgent routes a (.arpq 0 (mipadvertiser.sendAdvertisement destination).2))
      [] := by
  simp only [fromAgent, if_true]
  split_ifs
  · exact .idle ⟨_, .advertisement hA, holds_send _ _ _ _⟩ .nil
  · exact .nil

theorem fromAgent_quiet {out : List Handoff} (h : Quiet out) (a : Agent ι) :
    out.flatMap (w.fromAgent routes a) = [] := by
  refine List.flatMap_eq_nil_iff.2 fun x hx => ?_
  cases x with
  | arpq link p => cases h _ hx
  | arp link output p => rfl
  | rt p => rfl

end Wires

end MobileIP
