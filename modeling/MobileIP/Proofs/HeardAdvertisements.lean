import MobileIP.Proofs.CurrentAgent
import MobileIP.Proofs.SequenceNumbers

/-! What the host makes of an advertisement: it counts those of its agent that it can read, and
registers anew on one that looks like the first after a restart. -/

namespace MobileIP

namespace MobileHost

variable {h : MobileHost} {y : Machine.Entry MobileHost HostEvent Emission} {link : IPAddress}
  {s : Sent} {c : ℕ}

def ConnectedTo (link : IPAddress) (h : MobileHost) : Prop :=
  h.soliciter.connected = true ∧ h.soliciter.agentAddress = link

instance (link : IPAddress) (h : MobileHost) : Decidable (h.ConnectedTo link) :=
  inferInstanceAs (Decidable (_ ∧ _))

/-- The step takes the branch in which the agent has reset itself. -/
def Resets (y : Machine.Entry MobileHost HostEvent Emission) : Prop :=
  ∃ adv, y.event.advertised = some adv ∧
    adv.IP.source ≠ y.before.MN.homeAgentPrivateAddress ∧ y.before.ConnectedTo adv.IP.source ∧
    adv.sequenceNumber - 1 ≠ y.before.soliciter.advertisementSequenceNumber ∧
    adv.sequenceNumber < 256

def Hears (s : Sent) (y : Machine.Entry MobileHost HostEvent Emission) : Prop :=
  ∃ now ctx unset shost dhost, y.event = .simpleAction now ctx unset (etherEncap s.packet shost dhost)

theorem Hears.advertised (hy : Hears s y) : ∃ unset : UnsetAdvertisement, y.event.advertised =
    some (if s.Readable then s.sender.advertisement s.destination else unset.adv) := by
  obtain ⟨now, ctx, unset, shost, dhost, hev⟩ := hy
  refine ⟨unset, ?_⟩
  have htype : getPacketType (etherEncap s.packet shost dhost) = .advertisement :=
    s.sender.frame_type s.destination shost dhost
  have hread : ∀ adv, (processRouterAdvertisementMessage (processEtherHeader
      (etherEncap s.packet shost dhost) true).2).1 = .ok adv ↔
        s.Readable ∧ adv = s.sender.advertisement s.destination :=
    s.sender.advertisement_read_iff s.destination shost dhost
  rw [hev, HostEvent.advertised, if_neg (not_not.2 htype)]
  by_cases hr : s.Readable
  · rw [(hread _).2 ⟨hr, rfl⟩, if_pos hr]
  · cases he : (processRouterAdvertisementMessage (processEtherHeader
        (etherEncap s.packet shost dhost) true).2).1 with
    | error e => rw [if_neg hr]
    | ok adv => exact absurd ((hread adv).1 he).1 hr

theorem processAdvertisement_own {now : ℕ} {ctx : SendContext} {ether : EtherHeader}
    {adv : RouterAdvertisement} (hconn : h.ConnectedTo adv.IP.source)
    (hhome : adv.IP.source ≠ h.MN.homeAgentPrivateAddress) :
    h.processAdvertisement now ctx ether adv =
      if adv.sequenceNumber - 1 ≠ h.soliciter.advertisementSequenceNumber ∧
          adv.sequenceNumber < 256 then
        (⟨{ h.soliciter with advertisementSequenceNumber := adv.sequenceNumber },
          (h.MN.reregister ctx adv.IP.source adv.careOfAddress adv.registrationLifetime).1⟩,
          (h.MN.reregister ctx adv.IP.source adv.careOfAddress adv.registrationLifetime).2)
      else
        ({ h with soliciter := ({ h.soliciter with advertisementSequenceNumber :=
          h.soliciter.advertisementSequenceNumber + 1 }).raiseLifetime now adv.lifetime }, []) := by
  unfold processAdvertisement
  dsimp only
  rw [if_neg hhome, if_neg (by simp [hconn.1]), if_pos hconn.2]

theorem processAdvertisement_other {now : ℕ} {ctx : SendContext} {ether : EtherHeader}
    {adv : RouterAdvertisement} (hconn : h.ConnectedTo link) (hne : adv.IP.source ≠ link)
    (hstay : (h.processAdvertisement now ctx ether adv).1.ConnectedTo link) :
    h.processAdvertisement now ctx ether adv = (h, []) := by
  have hown : h.soliciter.agentAddress ≠ adv.IP.source := fun heq => hne (heq.symm.trans hconn.2)
  unfold processAdvertisement at hstay ⊢
  dsimp only at hstay ⊢
  split_ifs at hstay ⊢ with hhome hsame hfirst hnot hfast
  · exact absurd hsame.2 hown
  · exact absurd hstay.2 hne
  · exact absurd hstay.2 hne
  · exact absurd (hconn.1.symm.trans hnot) (by decide)
  · exact absurd hstay.2 hne
  · rfl

theorem quiet_step (hy : y.before.step y.event = .ok (y.after, y.out))
    (hconn : y.before.ConnectedTo link) (hstay : y.after.ConnectedTo link)
    (hne : ∀ adv, y.event.advertised = some adv → adv.IP.source ≠ link) :
    y.after.soliciter.advertisementSequenceNumber =
        y.before.soliciter.advertisementSequenceNumber ∧ ¬ Resets y ∧
      (y.event.advertised ≠ none → y.out = []) := by
  have hresets : ¬ Resets y := by
    intro hr
    obtain ⟨adv, hadv, -, hconn', -⟩ := hr
    exact hne adv hadv (hconn'.2.symm.trans hconn.2)
  by_cases he : ∃ now ctx unset p, y.event = .simpleAction now ctx unset p
  · obtain ⟨now, ctx, unset, p, hev⟩ := he
    rw [hev] at hy
    rcases simpleAction_cases hy with ⟨-, hafter, hout⟩ | ⟨adv, hadv, heq⟩
    · exact ⟨by rw [hafter], hresets, fun _ => hout⟩
    · have hidle := processAdvertisement_other hconn (hne adv (hev ▸ hadv))
        (by rw [heq]; exact hstay)
      obtain ⟨hafter, hout⟩ := Prod.mk.inj (heq.symm.trans hidle)
      exact ⟨by rw [hafter], hresets, fun _ => hout⟩
  · have hother : ∀ now ctx unset p, y.event ≠ .simpleAction now ctx unset p :=
      fun now ctx unset p hev => he ⟨now, ctx, unset, p, hev⟩
    refine ⟨?_, hresets, fun hsome => ?_⟩
    · rcases step_soliciter hy hother with hsame | ⟨-, hexpired⟩
      · rw [hsame]
      · rw [hexpired] at hstay
        cases hstay.1
    · cases hev : y.event with
      | simpleAction now ctx unset p => exact absurd hev (hother now ctx unset p)
      | _ => exact absurd (by rw [hev]; rfl) hsome

theorem home_step (hy : y.before.step y.event = .ok (y.after, y.out)) :
    y.after.MN.homeAgentPrivateAddress = y.before.MN.homeAgentPrivateAddress := by
  rcases step_node hy with ⟨hnode, -⟩ | ⟨e', -, hnode⟩
  · rw [hnode]
  · exact (MobileIPNode.sameSetup_step hnode).homeAgentPrivateAddress

theorem detects_iff {x : UInt32} (hc : x.toNat < 256 → c < 2 ^ 32 - 1) :
    x - 1 ≠ UInt32.ofNat c ∧ x < 256 ↔ x.toNat < 256 ∧ x.toNat ≠ c + 1 := by
  rw [and_comm, UInt32.lt_iff_toNat_lt]
  refine and_congr_right fun hx => not_congr ?_
  have hlt := hc hx
  rw [← UInt32.toNat_inj, UInt32.toNat_sub, UInt32.toNat_ofNat']
  change x.toNat < 256 at hx
  change (4294967296 - 1 + x.toNat) % 4294967296 = c % 4294967296 ↔ _
  omega

theorem own_step (hy : y.before.step y.event = .ok (y.after, y.out)) (hh : Hears s y)
    (hr : s.Readable) (hconn : y.before.ConnectedTo s.sender.linkAddress)
    (hhome : y.before.MN.homeAgentPrivateAddress ≠ s.sender.linkAddress)
    (hle : s.sender.sequenceNumber.toNat ≤ 65535)
    (hcount : y.before.soliciter.advertisementSequenceNumber = UInt32.ofNat c)
    (hc : s.message.number < 256 → c < 2 ^ 32 - 1) :
    (Resets y ↔ Numbering.Detects 256 c s.message) ∧
      (y.out ≠ [] ↔ Numbering.Detects 256 c s.message) ∧
      y.after.soliciter.advertisementSequenceNumber =
        UInt32.ofNat (Numbering.count 256 c s.message) := by
  obtain ⟨unset, hadv⟩ := hh.advertised
  obtain ⟨now, ctx, unset', shost, dhost, hev⟩ := hh
  rw [if_pos hr] at hadv
  have hnumber : (s.sender.advertisement s.destination).sequenceNumber =
      s.sender.sequenceNumber := toUInt32_toUInt16 hle
  have hdetects : s.sender.sequenceNumber - 1 ≠ UInt32.ofNat c ∧ s.sender.sequenceNumber < 256 ↔
      Numbering.Detects 256 c s.message := detects_iff hc
  have hresets : Resets y ↔ Numbering.Detects 256 c s.message := by
    unfold Resets
    rw [hadv, hcount]
    simp only [Option.some.injEq, exists_eq_left', hnumber]
    rw [hdetects]
    exact ⟨fun h => h.2.2, fun h => ⟨hhome.symm, hconn, h⟩⟩
  refine ⟨hresets, ?_⟩
  rw [hev] at hy hadv
  rcases simpleAction_cases hy with ⟨hnone, -⟩ | ⟨adv, hadv', heq⟩
  · rw [hadv] at hnone
    cases hnone
  · obtain rfl := Option.some.inj (hadv.symm.trans hadv')
    rw [processAdvertisement_own hconn hhome.symm, hnumber, hcount] at heq
    unfold Numbering.count
    by_cases hd : Numbering.Detects 256 c s.message
    · rw [if_pos (hdetects.2 hd)] at heq
      obtain ⟨hafter, hout⟩ := Prod.mk.inj heq
      rw [if_pos hd, ← hafter, ← hout]
      exact ⟨iff_of_true (MobileIPNode.reregister_out _ _ _ _ _) hd, UInt32.ofNat_toNat.symm⟩
    · rw [if_neg (hd ∘ hdetects.1)] at heq
      obtain ⟨hafter, hout⟩ := Prod.mk.inj heq
      rw [if_neg hd, ← hafter, ← hout]
      exact ⟨iff_of_false (by simp) hd, (UInt32.ofNat_add c 1).symm⟩

end MobileHost

end MobileIP
