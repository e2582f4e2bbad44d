import MobileIP.Proofs.Verdicts

/-! When the host takes an advertisement of its foreign agent for the first one after a restart of
the agent, where it hears all of them. -/

namespace MobileIP

section Restarts

open MobileIPAdvertiser MobileHost

variable {a₀ a : MobileIPAdvertiser} {sent : Machine.Trace MobileIPAdvertiser AdvertiserEvent Packet}
  {h₀ h : MobileHost} {x : Machine.Entry MobileHost HostEvent Emission}
  {tr : Machine.Trace MobileHost HostEvent Emission} {s : Sent} {pre post : List Sent}
  {received : List (Sent × Machine.Entry MobileHost HostEvent Emission)}

/-- Fewer than `2 ^ 31` advertisements in a row are sent without a restart. -/
def FewBetween (l : List Sent) : Prop :=
  ∀ pre block post, l = pre ++ (block ++ post) → (∀ s ∈ block, s.restarted = false) →
    block.length < 2 ^ 31

theorem FewBetween.messages {rest : List Sent} (hfew : FewBetween (pre ++ (post ++ rest))) :
    ∀ l block r, post.map Sent.message = l ++ (block ++ r) →
      (∀ m ∈ block, m.restarted = false) → block.length < 2 ^ 31 := by
  intro l block r heq hb
  obtain ⟨l', q, rfl, -, hq⟩ := List.map_eq_append_iff.1 heq
  obtain ⟨block', r', rfl, rfl, -⟩ := List.map_eq_append_iff.1 hq
  rw [List.length_map]
  refine hfew (pre ++ l') block' (r' ++ rest) (by simp only [List.append_assoc]) ?_
  intro s hs
  exact hb _ (List.mem_map_of_mem hs)

/-- The soliciter never counts up to `2 ^ 32 - 1` from the advertisement `s` on. -/
theorem FewBetween.within {rest : List Sent} (hfew : FewBetween (pre ++ (post ++ rest)))
    (hle : s.message.number ≤ 65535)
    (hnum : Numbering.Numbered 256 65535 (Numbering.next 256 65535 s.message.number)
      (post.map Sent.message)) :
    Numbering.Within 256 (2 ^ 32 - 1) s.message.number (post.map Sent.message) := by
  refine Numbering.within_of_blocks (by omega) hnum s.next_message ?_ ?_
  · intro block r hl hb
    have := hfew.messages [] block r hl hb
    omega
  · intro l block r hl hb
    have := hfew.messages l block r hl hb
    omega

theorem numbered_after (h0 : a₀.sequenceNumber = 0)
    (hsends : Machine.Run MobileIPAdvertiser.step a₀ sent a)
    (hsent : sends false sent = pre ++ s :: post) :
    Numbering.Numbered 256 65535 0 ((pre ++ s :: post).map Sent.message) ∧
      ∀ s' ∈ pre ++ s :: post, s'.sender.linkAddress = a₀.linkAddress ∧
        s'.sender.sequenceNumber.toNat ≤ 65535 := by
  rw [← hsent]
  exact sends_numbered hsends (by rw [h0]; rfl) (by omega)

/-- Where the host hears all advertisements that are sent after the one it connected on, and the
checksum of none is 0, it takes the branch for a reset of the agent, and registers anew, exactly on
the first one after each restart. -/
theorem restart_detected (h0 : a₀.sequenceNumber = 0)
    (hsends : Machine.Run MobileIPAdvertiser.step a₀ sent a)
    (hrun : Machine.Run MobileHost.step h₀ (x :: tr) h)
    (hatt : Attached a₀.linkAddress s x received tr)
    (hsent : sends false sent = pre ++ s :: post) (hall : received.map Prod.fst <+: post)
    (hfew : FewBetween (sends false sent)) (hs : s.Readable)
    (hread : ∀ r ∈ received, r.1.Readable) :
    ∀ r ∈ received, (Resets r.2 ↔ r.1.restarted = true) ∧ (r.2.out ≠ [] ↔ r.1.restarted = true) := by
  obtain ⟨rest, rfl⟩ := hall
  obtain ⟨hnum, hle⟩ := numbered_after h0 hsends hsent
  obtain ⟨rfl, hx, hrest⟩ := hrun.uncons
  have hcount := hatt.count hx (hle s (by simp)).2 (Or.inl hs)
  have hheard : heard received = (received.map Prod.fst).map Sent.message := by
    rw [heard, List.filter_eq_self.2 fun r hr => decide_eq_true (hread r hr), List.map_map]
    rfl
  simp only [List.map_append, List.map_cons] at hnum
  have hnum' : Numbering.Numbered 256 65535 (Numbering.next 256 65535 s.message.number)
      (heard received) := hheard ▸ hnum.append.take
  have hwithin : Numbering.Within 256 (2 ^ 32 - 1) s.message.number (heard received) := by
    have hfew' : FewBetween ((pre ++ [s]) ++ (received.map Prod.fst ++ rest)) := by
      rw [List.append_assoc, List.singleton_append, ← hsent]
      exact hfew
    rw [hheard] at hnum' ⊢
    exact hfew'.within (hle s (by simp)).2 hnum'
  obtain ⟨hverdicts, -⟩ := receives_verdicts hrest hatt.receives hatt.connects.2
    (home_step hx ▸ hatt.foreign) hatt.stays
    (fun r hr => hle r.1 (by simp [List.mem_map_of_mem (f := Prod.fst) hr]))
    (fun r hr => Or.inl (hread r hr)) hcount hwithin
  rw [Numbering.verdicts_eq (by omega) hnum' s.next_message, heard, List.map_map,
    List.filter_eq_self.2 fun r hr => decide_eq_true (hread r hr), List.forall₂_map_right_iff,
    List.forall₂_same] at hverdicts
  exact hverdicts

section Examples

open Definitions

def agent : MobileIPAdvertiser where
  isForeignAgent := true
  linkAddress := foreignAgentPrivateAddress
  careOfAddress := foreignAgentPublicAddress

def broadcast (number : UInt32) (restarted : Bool) : Sent :=
  ⟨{ agent with sequenceNumber := number }, .broadcast, restarted⟩

def arrives (s : Sent) : HostEvent :=
  .simpleAction 0 (sendAt 1) ⟨0, 0, 0, 0, false, false⟩ (etherEncap s.packet .zero .zero)

def reading (h : MobileHost) (s : Sent) : Machine.Entry MobileHost HostEvent Emission :=
  let r := h.processAdvertisement 0 (sendAt 1)
    (processEtherHeader (etherEncap s.packet .zero .zero) true).1
    (s.sender.advertisement s.destination)
  ⟨h, arrives s, r.2, r.1⟩

theorem hears_reading (h : MobileHost) (s : Sent) : Hears s (reading h s) :=
  ⟨_, _, _, _, _, rfl⟩

theorem reads_of_readable (hr : s.Readable) :
    Reads (etherEncap s.packet .zero .zero) (s.sender.advertisement s.destination) :=
  ⟨s.sender.frame_type _ _ _, (s.sender.advertisement_read_iff _ _ _ _).2 ⟨hr, rfl⟩⟩

theorem step_reading (hr : s.Readable) (h : MobileHost) :
    h.step (arrives s) = .ok ((reading h s).after, (reading h s).out) :=
  simpleAction_of_reads (reads_of_readable hr) _ _ _ _

def visitor : MobileHost := (reading mobileHost (broadcast 0 false)).after

theorem readable_broadcast (number : UInt32) (restarted : Bool) :
    (broadcast number restarted).Readable := by
  change headerSum 48 1 1 foreignAgentPrivateAddress .broadcast ≠ 0
  decide

theorem fewBetween_of_length {l : List Sent} (h : l.length < 2 ^ 31) : FewBetween l := by
  intro pre block post hl _
  have := congrArg List.length hl
  simp only [List.length_append] at this
  omega

theorem resets_reading (hr : s.Readable)
    (hhome : s.sender.linkAddress ≠ h.MN.homeAgentPrivateAddress)
    (hconn : h.ConnectedTo s.sender.linkAddress)
    (hnumber : (s.sender.advertisement s.destination).sequenceNumber - 1 ≠
      h.soliciter.advertisementSequenceNumber ∧
        (s.sender.advertisement s.destination).sequenceNumber < 256) :
    Resets (reading h s) := by
  obtain ⟨unset, hadv⟩ := (hears_reading h s).advertised
  rw [if_pos hr] at hadv
  exact ⟨_, hadv, hhome, hconn, hnumber⟩

/-- The agent restarts after its second advertisement. -/
theorem restart_detected_once :
    let y := reading visitor (broadcast 1 false)
    ¬ Resets y ∧ Resets (reading y.after (broadcast 0 true)) := by
  let x := reading mobileHost (broadcast 0 false)
  let y := reading visitor (broadcast 1 false)
  let z := reading y.after (broadcast 0 true)
  have hrun : Machine.Run MobileHost.step mobileHost [x, y, z] z.after :=
    ((Machine.Run.nil.snoc (step_reading (readable_broadcast 0 false) mobileHost)).snoc
      (step_reading (readable_broadcast 1 false) visitor)).snoc
      (step_reading (readable_broadcast 0 true) y.after)
  have hsent : sends false (Machine.exec MobileIPAdvertiser.step agent
      [.runTimer, .runTimer, .restart, .runTimer]).1 =
        [] ++ broadcast 0 false :: [broadcast 1 false, broadcast 0 true] := by decide
  have hatt : Attached agent.linkAddress (broadcast 0 false) x
      [(broadcast 1 false, y), (broadcast 0 true, z)] [y, z] := by
    refine ⟨by decide, hears_reading _ _, by decide, ?_,
      .heard (hears_reading _ _) (.heard (hears_reading _ _) .nil)⟩
    decide
  have hall := restart_detected rfl (Machine.Run.of_exec agent _) hrun hatt hsent ⟨[], rfl⟩
    (fewBetween_of_length (by decide)) (readable_broadcast 0 false) (by decide)
  refine ⟨fun hr => ?_, (hall (broadcast 0 true, z) (by simp)).1.2 rfl⟩
  exact absurd ((hall (broadcast 1 false, y) (by simp)).1.1 hr) (by decide)

/-- A visitor to whom the advertiser answers with a header whose checksum is 0. -/
def unluckyAddress : IPAddress := ⟨192, 168, 52, 127⟩

def unlucky : Sent := ⟨{ agent with sequenceNumber := 1 }, unluckyAddress, false⟩

theorem step_unlucky : visitor.step (arrives unlucky) = .ok (visitor, []) := by
  have hread := unlucky.sender.advertisement_read_iff unlucky.destination .zero .zero
  have hidle : visitor.processAdvertisement 0 (sendAt 1) (processEtherHeader
      (etherEncap unlucky.packet .zero .zero) true).1
      (UnsetAdvertisement.adv ⟨0, 0, 0, 0, false, false⟩) = (visitor, []) :=
    processAdvertisement_idle_iff.2 (by decide)
  cases he : (processRouterAdvertisementMessage (processEtherHeader
      (etherEncap unlucky.packet .zero .zero) true).2).1 with
  | error e =>
    refine (simpleAction_of_error visitor 0 (sendAt 1) _ (unlucky.sender.frame_type _ _ _) he).trans
      (congrArg Except.ok hidle)
  | ok adv => exact absurd ((hread adv).1 he).1 (by decide)

/-- The host hears all advertisements, but cannot read the second, an answer to the visitor; the
third is taken for the first one after a restart. -/
theorem unread_advertisement_resets :
    ¬ ∀ (a₀ a : MobileIPAdvertiser) (sent : Machine.Trace MobileIPAdvertiser AdvertiserEvent Packet)
      (h₀ h : MobileHost) (x : Machine.Entry MobileHost HostEvent Emission)
      (tr : Machine.Trace MobileHost HostEvent Emission) (s : Sent) (pre post : List Sent)
      (received : List (Sent × Machine.Entry MobileHost HostEvent Emission)),
      a₀.sequenceNumber = 0 → Machine.Run MobileIPAdvertiser.step a₀ sent a →
      Machine.Run MobileHost.step h₀ (x :: tr) h → Attached a₀.linkAddress s x received tr →
      sends false sent = pre ++ s :: post → received.map Prod.fst <+: post →
      FewBetween (sends false sent) →
        ∀ r ∈ received, Resets r.2 ↔ r.1.restarted = true := by
  intro hall
  let x := reading mobileHost (broadcast 0 false)
  let y : Machine.Entry MobileHost HostEvent Emission := ⟨visitor, arrives unlucky, [], visitor⟩
  let z := reading visitor (broadcast 2 false)
  have hrun : Machine.Run MobileHost.step mobileHost [x, y, z] z.after :=
    ((Machine.Run.nil.snoc (step_reading (readable_broadcast 0 false) mobileHost)).snoc
      step_unlucky).snoc (step_reading (readable_broadcast 2 false) visitor)
  have hsent : sends false (Machine.exec MobileIPAdvertiser.step agent [.runTimer,
      .simpleAction (ICMPIPfy buildRouterSolicitationMessage unluckyAddress .broadcast 1),
      .runTimer]).1 = [] ++ broadcast 0 false :: [unlucky, broadcast 2 false] := by decide +kernel
  have hatt : Attached agent.linkAddress (broadcast 0 false) x
      [(unlucky, y), (broadcast 2 false, z)] [y, z] := by
    refine ⟨by decide, hears_reading _ _, by decide, ?_,
      .heard ⟨_, _, _, _, _, rfl⟩ (.heard (hears_reading _ _) .nil)⟩
    decide
  have hlast := hall agent _ _ mobileHost _ x [y, z] _ [] _ _ rfl (Machine.Run.of_exec agent _) hrun
    hatt hsent ⟨[], rfl⟩ (fewBetween_of_length (by rw [hsent]; decide)) (broadcast 2 false, z)
    (by simp)
  refine absurd (hlast.1 ?_) (by decide)
  exact resets_reading (readable_broadcast 2 false) (by decide) (by decide) (by decide)

end Examples

end Restarts

end MobileIP
