import MobileIP.Proofs.HeardAdvertisements

/-! What the host makes of a run of advertisements: its soliciter is a receiver of numbered messages
from the advertisement on by which it connects. -/

namespace MobileIP

namespace MobileHost

variable {h h' : MobileHost} {y : Machine.Entry MobileHost HostEvent Emission} {link : IPAddress}
  {s : Sent} {c : ℕ}

/-- A stretch of a run of the host in which advertisements reach it, in order, and no other
advertisement from the address. -/
inductive Receives (link : IPAddress) :
    List (Sent × Machine.Entry MobileHost HostEvent Emission) →
      Machine.Trace MobileHost HostEvent Emission → Prop where
  | nil : Receives link [] []
  | heard {s : Sent} {y : Machine.Entry MobileHost HostEvent Emission}
      {received : List (Sent × Machine.Entry MobileHost HostEvent Emission)}
      {tr : Machine.Trace MobileHost HostEvent Emission} :
      Hears s y → Receives link received tr → Receives link ((s, y) :: received) (y :: tr)
  | other {y : Machine.Entry MobileHost HostEvent Emission}
      {received : List (Sent × Machine.Entry MobileHost HostEvent Emission)}
      {tr : Machine.Trace MobileHost HostEvent Emission} :
      (∀ adv, y.event.advertised = some adv → adv.IP.source ≠ link) →
        Receives link received tr → Receives link received (y :: tr)

variable {received : List (Sent × Machine.Entry MobileHost HostEvent Emission)}
  {tr : Machine.Trace MobileHost HostEvent Emission}

def heard (received : List (Sent × Machine.Entry MobileHost HostEvent Emission)) :
    List Numbering.Message :=
  (received.filter fun r => decide r.1.Readable).map fun r => r.1.message

theorem filter_of_readable (hr : s.Readable) :
    ((s, y) :: received).filter (fun r => decide r.1.Readable) =
      (s, y) :: received.filter fun r => decide r.1.Readable :=
  List.filter_cons_of_pos (decide_eq_true hr)

/-- The soliciter is the receiver that counts the advertisements it can read. -/
theorem receives_verdicts (hrun : Machine.Run MobileHost.step h tr h')
    (hrec : Receives link received tr) (hconn : h.ConnectedTo link)
    (hhome : h.MN.homeAgentPrivateAddress ≠ link) (hstay : ∀ y ∈ tr, y.after.ConnectedTo link)
    (hsent : ∀ r ∈ received, r.1.sender.linkAddress = link ∧
      r.1.sender.sequenceNumber.toNat ≤ 65535)
    (hread : ∀ r ∈ received, r.1.Readable ∨ link ≠ .zero)
    (hcount : h.soliciter.advertisementSequenceNumber = UInt32.ofNat c)
    (hwithin : Numbering.Within 256 (2 ^ 32 - 1) c (heard received)) :
    List.Forall₂ (fun r v => (Resets r.2 ↔ v = true) ∧ (r.2.out ≠ [] ↔ v = true))
        (received.filter fun r => decide r.1.Readable)
        (Numbering.verdicts 256 c (heard received)) ∧
      ∀ r ∈ received, ¬ r.1.Readable → ¬ Resets r.2 ∧ r.2.out = [] := by
  induction hrec generalizing h c with
  | nil => exact ⟨List.Forall₂.nil, by simp⟩
  | @heard s y received tr hh hrec ih =>
    obtain ⟨rfl, hy, hrest⟩ := hrun.uncons
    rw [List.forall_mem_cons] at hstay hsent hread
    have hhome' := hhome
    rw [← home_step hy] at hhome'
    by_cases hr : s.Readable
    · simp only [heard, filter_of_readable hr, List.map_cons] at hwithin ⊢
      obtain ⟨hlink, hle⟩ := hsent.1
      rw [← hlink] at hconn hhome
      obtain ⟨hresets, hout, hafter⟩ := own_step hy hh hr hconn hhome hle hcount hwithin.1
      obtain ⟨htail, hrest'⟩ := ih hrest hstay.1 hhome' hstay.2 hsent.2 hread.2 hafter hwithin.2
      refine ⟨List.Forall₂.cons ?_ htail, List.forall_mem_cons.2 ⟨fun hn => absurd hr hn, hrest'⟩⟩
      rw [decide_eq_true_iff]
      exact ⟨hresets, hout⟩
    · have hfilter : ((s, y) :: received).filter (fun r => decide r.1.Readable) =
          received.filter fun r => decide r.1.Readable :=
        List.filter_cons_of_neg (by simp [hr])
      simp only [heard, hfilter] at hwithin ⊢
      obtain ⟨unset, hadv⟩ := hh.advertised
      rw [if_neg hr] at hadv
      obtain ⟨hafter, hnot, hout⟩ := quiet_step hy hconn hstay.1 fun adv hadv' => by
        rw [← Option.some.inj (hadv.symm.trans hadv')]
        exact ((hread.1.resolve_left hr)).symm
      obtain ⟨htail, hrest'⟩ := ih hrest hstay.1 hhome' hstay.2 hsent.2 hread.2
        (hafter.trans hcount) hwithin
      exact ⟨htail, List.forall_mem_cons.2 ⟨fun _ => ⟨hnot, hout (by simp [hadv])⟩, hrest'⟩⟩
  | @other y received tr hne hrec ih =>
    obtain ⟨rfl, hy, hrest⟩ := hrun.uncons
    rw [List.forall_mem_cons] at hstay
    rw [← home_step hy] at hhome
    obtain ⟨hafter, -, -⟩ := quiet_step hy hconn hstay.1 hne
    exact ih hrest hstay.1 hhome hstay.2 hsent hread (hafter.trans hcount) hwithin

theorem processAdvertisement_connects {now : ℕ} {ctx : SendContext} {ether : EtherHeader}
    {adv : RouterAdvertisement} (hnot : ¬ h.ConnectedTo link)
    (hconn : (h.processAdvertisement now ctx ether adv).1.ConnectedTo link) :
    adv.IP.source = link ∧
      (h.processAdvertisement now ctx ether adv).1.soliciter.advertisementSequenceNumber =
        adv.sequenceNumber := by
  unfold processAdvertisement at hconn ⊢
  dsimp only at hconn ⊢
  split_ifs at hconn ⊢
  · exact absurd hconn hnot
  · exact ⟨hconn.2, rfl⟩
  · exact ⟨hconn.2, rfl⟩
  · exact ⟨hconn.2, rfl⟩
  · exact absurd hconn hnot
  · exact absurd hconn hnot
  · exact ⟨hconn.2, rfl⟩
  · exact absurd hconn hnot

/-- The host connects in the step `x` to a foreign agent on the advertisement `s`, stays connected
in the steps after it, and receives there the given advertisements of the agent. -/
structure Attached (link : IPAddress) (s : Sent)
    (x : Machine.Entry MobileHost HostEvent Emission)
    (received : List (Sent × Machine.Entry MobileHost HostEvent Emission))
    (tr : Machine.Trace MobileHost HostEvent Emission) : Prop where
  foreign : x.before.MN.homeAgentPrivateAddress ≠ link
  hears : Hears s x
  connects : ¬ x.before.ConnectedTo link ∧ x.after.ConnectedTo link
  stays : ∀ y ∈ tr, y.after.ConnectedTo link
  receives : Receives link received tr

theorem Attached.count {x : Machine.Entry MobileHost HostEvent Emission}
    (hatt : Attached link s x received tr)
    (hx : x.before.step x.event = .ok (x.after, x.out))
    (hle : s.sender.sequenceNumber.toNat ≤ 65535) (hread : s.Readable ∨ link ≠ .zero) :
    x.after.soliciter.advertisementSequenceNumber = UInt32.ofNat s.message.number := by
  obtain ⟨unset, hadv⟩ := hatt.hears.advertised
  obtain ⟨now, ctx, unset', shost, dhost, hev⟩ := hatt.hears
  obtain ⟨hnot, hconn⟩ := hatt.connects
  rw [hev] at hx hadv
  rcases simpleAction_cases hx with ⟨hnone, -⟩ | ⟨adv, hadv', heq⟩
  · rw [hadv] at hnone
    cases hnone
  · obtain rfl := Option.some.inj (hadv.symm.trans hadv')
    have hafter : (x.before.processAdvertisement now ctx (processEtherHeader
        (etherEncap s.packet shost dhost) true).1 _).1 = x.after := congrArg Prod.fst heq
    rw [← hafter] at hconn ⊢
    obtain ⟨hsource, hcount⟩ := processAdvertisement_connects hnot hconn
    have hr : s.Readable := by
      by_contra hr
      rw [if_neg hr] at hsource
      exact hread.resolve_left hr hsource.symm
    rw [hcount, if_pos hr]
    exact (toUInt32_toUInt16 hle).trans UInt32.ofNat_toNat.symm

end MobileHost

end MobileIP
