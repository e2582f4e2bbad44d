import MobileIP.Proofs.Soliciter
import MobileIP.Spec.Transformer

/-! The frames in which the packets of a mobile node leave it. -/

namespace MobileIP

namespace MobileIPPacketTransformer

variable {h : MobileHost} {p p' : Packet} {useCount useCount' : ℕ} {source : EthernetAddress}

structure IPPacket (p : Packet) : Prop where
  header : 20 ≤ p.length
  version : (p.u8 p.data).toNat / 16 = 4

/-- What the transformer takes for the source address: bytes 6 to 11 of the packet, which in an IP
header are the fragment offset, the time to live, the protocol and the checksum. -/
def sourceRead (p : Packet) : EthernetAddress := (processEtherHeader p false).1.source

theorem sourceRead_eq_iff : sourceRead p = sourceRead p' ↔
    ∀ i : Fin 6, p.u8 (p.data + 6 + i) = p'.u8 (p'.data + 6 + i) := by
  simp only [sourceRead, processEtherHeader, EthernetAddress.mk.injEq]
  refine ⟨fun heq i => ?_, fun heq => congrArg Vector.ofFn (funext heq)⟩
  have hget := congrArg (fun v => v[i]) heq
  simpa using hget

theorem IPPacket.not_isBroadcast (hp : IPPacket p) :
    (processEtherHeader p false).1.destination.isBroadcast ≠ true := by
  intro hb
  have hfirst : p.u8 (p.data + 0) = 255 := by
    simpa [processEtherHeader] using of_decide_eq_true hb 0
  have hversion := hp.version
  rw [← Nat.add_zero p.data, hfirst] at hversion
  exact absurd hversion (by decide)

theorem push_away (hhome : h.isHome = false) (hmac : h.soliciter.agentMAC.isZero = false)
    (hp : IPPacket p) : push h p useCount =
      if 1 < useCount then .ok [(1, Etherfy p (sourceRead p) h.soliciter.agentMAC)]
      else .error (.undefinedBehaviour "output(1).push(q)") := by
  rw [push, if_pos ⟨hhome, hmac⟩]
  exact if_neg hp.not_isBroadcast

/-- The packet leaves on output 1, alive and unchanged, behind the header of a frame from `source` to
the agent. -/
def Framed (h : MobileHost) (source : EthernetAddress) (p : Packet) (useCount : ℕ) : Prop :=
  ∃ frame, push h p useCount = .ok [(1, frame)] ∧
    frame.bytes = h.soliciter.agentMAC.eth.toList ++ source.eth.toList ++ [8, 0] ++ p.bytes

theorem framed_iff (hhome : h.isHome = false) (hmac : h.soliciter.agentMAC.isZero = false)
    (hp : IPPacket p) : Framed h source p useCount ↔ 1 < useCount ∧ source = sourceRead p := by
  rw [Framed, push_away hhome hmac hp]
  by_cases hcount : 1 < useCount
  · rw [if_pos hcount, and_iff_right hcount]
    constructor
    · intro hframed
      obtain ⟨frame, heq, hbytes⟩ := hframed
      cases heq
      have hheader := List.append_cancel_right (List.append_cancel_right hbytes)
      have hsource := Vector.toList_inj.1 (List.append_cancel_left hheader)
      exact (congrArg EthernetAddress.mk hsource).symm
    · intro hsource
      exact ⟨_, rfl, by rw [hsource]; rfl⟩
  · rw [if_neg hcount]
    exact iff_of_false (fun ⟨_, heq, _⟩ => nomatch heq) fun hr => hcount hr.1

/-- Two IP packets leave in whole frames from one and the same source address, exactly if `uniqueify`
copies both, and they agree in bytes 6 to 11. -/
theorem frames_agree_iff (hhome : h.isHome = false) (hmac : h.soliciter.agentMAC.isZero = false)
    (hp : IPPacket p) (hp' : IPPacket p') :
    (∃ source, Framed h source p useCount ∧ Framed h source p' useCount') ↔
      (1 < useCount ∧ 1 < useCount') ∧
        ∀ i : Fin 6, p.u8 (p.data + 6 + i) = p'.u8 (p'.data + 6 + i) := by
  simp only [framed_iff hhome hmac hp, framed_iff hhome hmac hp', ← sourceRead_eq_iff]
  constructor
  · intro hr
    obtain ⟨source, ⟨hcount, hsource⟩, hcount', hsource'⟩ := hr
    exact ⟨⟨hcount, hcount'⟩, hsource.symm.trans hsource'⟩
  · intro hr
    exact ⟨sourceRead p, ⟨hr.1.1, rfl⟩, hr.1.2, hr.2⟩

section Examples

open Definitions

def away : MobileHost :=
  { mobileHost with soliciter :=
      { connected := true
        agentAddress := foreignAgentPrivateAddress
        agentMAC := ⟨#v[2, 0, 0, 0, 0, 1]⟩
        lifetimeTimer := some 30000 } }

def outgoing (payload : List UInt8) (ttl : UInt8) : Packet :=
  ICMPIPfy payload mobileNodeAddress homeAgentPublicAddress ttl

theorem frames_agree_payloads : ∃ source, Framed away source (outgoing [8, 0, 0, 1] 64) 2 ∧
    Framed away source (outgoing [8, 0, 0, 2] 64) 2 :=
  (frames_agree_iff (by decide) (by decide) ⟨by decide, by decide⟩ ⟨by decide, by decide⟩).2
    ⟨⟨by decide, by decide⟩, by decide⟩

/-- No source address is that of the frames of both a packet with 64 hops left and one with 63, even
where the frames survive. -/
theorem frames_disagree : ¬ ∀ (h : MobileHost), h.isHome = false →
    h.soliciter.agentMAC.isZero = false → ∃ source, ∀ (p : Packet) (useCount : ℕ), 1 < useCount →
      IPPacket p → Framed h source p useCount := by
  intro hall
  obtain ⟨source, hframed⟩ := hall away (by decide) (by decide)
  have hsource := framed_iff (by decide) (by decide) ⟨by decide, by decide⟩ |>.1
    (hframed (outgoing [8, 0, 0, 1] 64) 2 (by decide) ⟨by decide, by decide⟩)
  have hsource' := framed_iff (by decide) (by decide) ⟨by decide, by decide⟩ |>.1
    (hframed (outgoing [8, 0, 0, 1] 63) 2 (by decide) ⟨by decide, by decide⟩)
  exact absurd (hsource.2.symm.trans hsource'.2) (by decide)

end Examples

end MobileIPPacketTransformer

end MobileIP
