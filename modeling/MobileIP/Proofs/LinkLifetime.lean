import MobileIP.Proofs.AgentReset

/-! The link from an agent to the host: how often the agent advertises within the lifetime that it
announces, and how long the host stays connected after an advertisement. -/

namespace MobileIP

namespace MobileIPAdvertiser

variable {a a' : MobileIPAdvertiser} {seconds : Int32}

theorem toNat_toUInt32_accepted (h : ¬ seconds < 3) :
    3 ≤ seconds.toUInt32.toNat ∧ (seconds.toUInt32.toNat ≤ 65535 ↔ seconds ≤ 65535) := by
  have hle : 3 ≤ seconds.toInt := Int32.le_iff_toInt_le.1 (Int32.not_lt.1 h)
  have hnat : (seconds.toUInt32.toNat : ℤ) = seconds.toInt := by
    rw [Int32.toNat_toUInt32_of_le (Int32.le_iff_toInt_le.2 ((by decide : (0 : ℤ) ≤ 3).trans hle))]
    exact Int.toNat_of_nonneg (by omega)
  refine ⟨by omega, ?_⟩
  rw [Int32.le_iff_toInt_le, ← hnat]
  exact Nat.cast_le.symm

theorem next_eq_ok_iff (rand : ℕ) (next : Int32) : a.next rand = .ok next ↔
    a.lifetime.toNat / 3 ≤ 2147483 ∧
      next.toInt = ↑(a.lifetime.toNat / 3 * 1000) - ↑(rand % 100) := by
  have hrand : rand % 100 < 100 := Nat.mod_lt _ (by decide)
  unfold MobileIPAdvertiser.next
  by_cases hlt : (↑(a.lifetime.toNat / 3 * 1000) - ↑(rand % 100) : ℤ) < 2147483648
  · have hint := Int32.toInt_ofInt_of_le (by omega) hlt
    rw [if_pos hlt, Except.ok.injEq, ← Int32.toInt_inj, hint]
    exact ⟨fun heq => ⟨by omega, heq.symm⟩, fun h => h.2.symm⟩
  · rw [if_neg hlt]
    refine iff_of_false (fun heq => nomatch heq) fun h => ?_
    omega

def announced (p : Packet) : ℕ := ntohs (p.u16 26)

theorem announced_sendAdvertisement (a : MobileIPAdvertiser) (destination : IPAddress) :
    announced (a.sendAdvertisement destination).2 = a.lifetime.toNat % 65536 :=
  ntohs_net16 a.lifetime.toNat

/-- The interval is defined and positive, and three of them fit into the lifetime that the packet
announces. -/
def Fits (interval : Except Exception Int32) (p : Packet) : Prop :=
  ∃ next, interval = .ok next ∧ 0 < next.toInt ∧ 3 * next.toInt ≤ 1000 * announced p

theorem fits_next_iff {lifetime : ℕ} (hlifetime : a.lifetime.toNat = lifetime)
    (hlifetime' : a'.lifetime.toNat = lifetime) (hle : 3 ≤ lifetime) (rand : ℕ)
    (destination : IPAddress) :
    Fits (a.next rand) (a'.sendAdvertisement destination).2 ↔ lifetime ≤ 65535 := by
  have hrand : rand % 100 < 100 := Nat.mod_lt _ (by decide)
  simp only [Fits, next_eq_ok_iff, announced_sendAdvertisement, hlifetime, hlifetime']
  constructor
  · intro h
    obtain ⟨next, ⟨-, hnext⟩, -, hfits⟩ := h
    omega
  · intro h
    have hint : (Int32.ofInt (↑(lifetime / 3 * 1000) - ↑(rand % 100))).toInt =
        ↑(lifetime / 3 * 1000) - ↑(rand % 100) :=
      Int32.toInt_ofInt_of_le (by omega) (by omega)
    exact ⟨_, ⟨by omega, hint⟩, by omega, by omega⟩

theorem runTimer_lifetime (a : MobileIPAdvertiser) : a.runTimer.1.lifetime = a.lifetime := rfl

theorem fits_resetAdvertisementTimer_iff (hseconds : ¬ seconds < 3)
    (hlifetime : a'.lifetime = seconds.toUInt32) (rand : ℕ) (destination : IPAddress) :
    Fits (a.resetAdvertisementTimer seconds rand).2 (a'.sendAdvertisement destination).2 ↔
      seconds ≤ 65535 := by
  obtain ⟨hle, hiff⟩ := toNat_toUInt32_accepted hseconds
  rw [← hiff]
  exact fits_next_iff rfl (congrArg UInt32.toNat hlifetime) hle rand destination

theorem fits_reschedule_iff (hseconds : ¬ seconds < 3) (hlifetime : a.lifetime = seconds.toUInt32)
    (rand : ℕ) (destination : IPAddress) :
    Fits (a.reschedule rand) (a.sendAdvertisement destination).2 ↔ seconds ≤ 65535 := by
  obtain ⟨hle, hiff⟩ := toNat_toUInt32_accepted hseconds
  have hnat := congrArg UInt32.toNat hlifetime
  rw [← hiff]
  exact fits_next_iff ((congrArg UInt32.toNat a.runTimer_lifetime).trans hnat) hnat hle rand
    destination

def KeepsLifetime : AdvertiserEvent → Prop
  | .setLifetime _ => False
  | .restart => False
  | _ => True

theorem lifetime_step {x : Machine.Entry MobileIPAdvertiser AdvertiserEvent Packet}
    (hx : x.before.step x.event = .ok (x.after, x.out)) (hkeeps : KeepsLifetime x.event) :
    x.after.lifetime = x.before.lifetime := by
  cases hev : x.event with
  | runTimer =>
    rw [hev] at hx
    rw [← (Prod.mk.inj (Except.ok.inj hx)).1]
  | simpleAction p =>
    rw [hev] at hx
    simp only [step, simpleAction] at hx
    split at hx
    · rw [← (Prod.mk.inj (Except.ok.inj hx)).1]
    · rw [← (Prod.mk.inj (Except.ok.inj hx)).1]
    · cases hx
    · rw [← (Prod.mk.inj (Except.ok.inj hx)).1]
      rfl
  | setLifetime seconds =>
    rw [hev] at hkeeps
    exact hkeeps.elim
  | setRegistrationLifetime value =>
    rw [hev] at hx
    rw [← (Prod.mk.inj (Except.ok.inj hx)).1]
  | restart =>
    rw [hev] at hkeeps
    exact hkeeps.elim

/-- After the lifetime has been set, and until it is set again, the timer is scheduled such that
three advertisements are sent within the lifetime that they announce, exactly if that lifetime fits
into the 16 bits of its field. -/
theorem three_advertisements_iff (hseconds : ¬ seconds < 3)
    {tr : Machine.Trace MobileIPAdvertiser AdvertiserEvent Packet}
    (hrun : Machine.Run MobileIPAdvertiser.step (a.changeLifetime seconds) tr a')
    (htr : ∀ x ∈ tr, KeepsLifetime x.event) (rand rand' : ℕ) (destination : IPAddress) :
    Fits (a.resetAdvertisementTimer seconds rand).2 (a'.sendAdvertisement destination).2 ∧
        Fits (a'.reschedule rand') (a'.sendAdvertisement destination).2 ↔
      seconds ≤ 65535 := by
  have hlifetime : a'.lifetime = seconds.toUInt32 := by
    refine hrun.invariant_of (I := fun a => a.lifetime = seconds.toUInt32) ?_ ?_ htr
    · rw [changeLifetime, if_neg hseconds]
    · intro x hx hkeeps hbefore
      exact (lifetime_step hx hkeeps).trans hbefore
  rw [fits_resetAdvertisementTimer_iff hseconds hlifetime, fits_reschedule_iff hseconds hlifetime,
    and_self]

section Examples

open Definitions

def advertiser : MobileIPAdvertiser where
  isForeignAgent := true
  linkAddress := foreignAgentPrivateAddress
  careOfAddress := foreignAgentPublicAddress

theorem three_advertisements_minute :
    Fits (advertiser.resetAdvertisementTimer 60 17).2
      ((advertiser.changeLifetime 60).sendAdvertisement .broadcast).2 :=
  ((three_advertisements_iff (a := advertiser) (by decide) Machine.Run.nil (by simp) 17 42
    .broadcast).2 (by decide)).1

/-- A lifetime of 65539 seconds is announced as one of 3 seconds, and the agent is silent for more
than 6 hours. -/
theorem advertisements_too_far : ¬ ∀ (a : MobileIPAdvertiser) (seconds : Int32) (rand : ℕ)
    (destination : IPAddress), ¬ seconds < 3 → Fits (a.resetAdvertisementTimer seconds rand).2
      ((a.changeLifetime seconds).sendAdvertisement destination).2 := by
  intro h
  have hlifetime : (advertiser.changeLifetime 65539).lifetime = Int32.toUInt32 65539 := by
    rw [changeLifetime, if_neg (by decide)]
  have hfits := h advertiser 65539 17 .broadcast (by decide)
  rw [fits_resetAdvertisementTimer_iff (by decide) hlifetime] at hfits
  exact absurd hfits (by decide)

end Examples

end MobileIPAdvertiser

namespace MobileHost

variable {h h₀ : MobileHost} {x : Machine.Entry MobileHost HostEvent Emission} {now : ℕ}
  {ctx : SendContext} {unset : UnsetAdvertisement} {p : Packet} {ether : EtherHeader}
  {adv : RouterAdvertisement}

theorem resets_iff (hadv : x.event.advertised = some adv) : Resets x ↔
    adv.IP.source ≠ x.before.MN.homeAgentPrivateAddress ∧ x.before.ConnectedTo adv.IP.source ∧
      adv.sequenceNumber - 1 ≠ x.before.soliciter.advertisementSequenceNumber ∧
      adv.sequenceNumber < 256 := by
  refine ⟨fun hr => ?_, fun hr => ⟨adv, hadv, hr⟩⟩
  obtain ⟨adv', hadv', hr⟩ := hr
  cases hadv.symm.trans hadv'
  exact hr

theorem Reads.advertised (hr : Reads p adv) :
    (HostEvent.simpleAction now ctx unset p).advertised = some adv := by
  rw [HostEvent.advertised, if_neg (not_not.2 hr.1), hr.2]

/-- Of the branches that leave the host connected to the sender of the advertisement, one alone does
not schedule the timer: the one in which the agent has reset itself. -/
theorem processAdvertisement_lifetimeTimer {resets : Prop} (hresets : resets ↔
      adv.IP.source ≠ h.MN.homeAgentPrivateAddress ∧ h.ConnectedTo adv.IP.source ∧
        adv.sequenceNumber - 1 ≠ h.soliciter.advertisementSequenceNumber ∧
        adv.sequenceNumber < 256)
    (hconn : (h.processAdvertisement now ctx ether adv).1.ConnectedTo adv.IP.source) :
    (¬ resets ∧ (h.processAdvertisement now ctx ether adv).1.soliciter.lifetimeTimer =
        some (now + 1000 * adv.lifetime.toNat)) ∨
      resets ∧ (h.processAdvertisement now ctx ether adv).1.soliciter.lifetimeTimer =
        h.soliciter.lifetimeTimer := by
  rw [hresets]
  unfold processAdvertisement at hconn ⊢
  dsimp only at hconn ⊢
  split_ifs at hconn ⊢ with hhome hsame hfirst hnot hagent hreset hfast
  · exact Or.inl ⟨fun hr => hr.1 hhome, rfl⟩
  · exact Or.inl ⟨fun hr => hr.1 hhome, rfl⟩
  · exact Or.inl ⟨fun hr => hr.1 hhome, rfl⟩
  · exact Or.inl ⟨fun hr => absurd (hnot.symm.trans hr.2.1.1) (by decide), rfl⟩
  · exact Or.inr ⟨⟨hhome, ⟨eq_true_of_ne_false hnot, hagent⟩, hreset⟩, rfl⟩
  · exact Or.inl ⟨fun hr => hreset hr.2.2, rfl⟩
  · exact Or.inl ⟨fun hr => hagent hr.2.1.2, rfl⟩
  · exact absurd hconn.2 hagent

/-- In every run, an advertisement that leaves the host connected to its sender schedules the
lifetime timer anew, exactly if it is not taken for the first one after a restart of the agent, or if
the timer is due at that time already. -/
theorem lifetime_raised_iff {tr : Machine.Trace MobileHost HostEvent Emission}
    (hrun : Machine.Run MobileHost.step h₀ tr h) (hx : x ∈ tr)
    (hev : x.event = .simpleAction now ctx unset p) (hreads : Reads p adv)
    (hconn : x.after.ConnectedTo adv.IP.source) :
    x.after.soliciter.lifetimeTimer = some (now + 1000 * adv.lifetime.toNat) ↔
      ¬ Resets x ∨ x.before.soliciter.lifetimeTimer = some (now + 1000 * adv.lifetime.toNat) := by
  have hs := hrun.step_mem x hx
  rw [hev, step, simpleAction_of_reads hreads] at hs
  have hafter := (Prod.mk.inj (Except.ok.inj hs)).1
  have hresets := resets_iff (x := x) (hev ▸ hreads.advertised)
  rw [← hafter] at hconn ⊢
  rcases processAdvertisement_lifetimeTimer hresets hconn with ⟨hr, htimer⟩ | ⟨hr, htimer⟩
  · exact iff_of_true htimer (Or.inl hr)
  · rw [htimer, or_iff_right (not_not.2 hr)]

section Examples

open Definitions MobileIPAdvertiser

def numbered (number : UInt32) : MobileIPAdvertiser := { advertiser with sequenceNumber := number }

def numberedFrame (number : UInt32) : Packet := (numbered number).frame .broadcast .zero .zero

theorem numberedFrame_reads (number : UInt32) :
    Reads (numberedFrame number) ((numbered number).advertisement .broadcast) := by
  refine ⟨(numbered number).frame_type _ _ _, ((numbered number).advertisement_read_iff _ _ _ _).2
    ⟨?_, rfl⟩⟩
  change headerSum 48 1 1 foreignAgentPrivateAddress .broadcast ≠ 0
  decide

def hearing (h : MobileHost) (now : ℕ) (number : UInt32) : MobileHost × List Emission :=
  h.processAdvertisement now (sendAt 1) (processEtherHeader (numberedFrame number) true).1
    ((numbered number).advertisement .broadcast)

theorem step_hearing (h : MobileHost) (now : ℕ) (number : UInt32) :
    h.step (advertisementArrives now (numberedFrame number)) =
      .ok ((hearing h now number).1, (hearing h now number).2) :=
  step_advertisementArrives (numberedFrame_reads number) h now

theorem lifetime_raised_second :
    (hearing (hearing mobileHost 0 0).1 15000 1).1.soliciter.lifetimeTimer = some 60000 := by
  have hrun := (Machine.Run.nil.snoc (step_hearing mobileHost 0 0)).snoc
    (step_hearing (hearing mobileHost 0 0).1 15000 1)
  refine (lifetime_raised_iff hrun List.mem_concat_self rfl (numberedFrame_reads 1) (by decide)).2
    (Or.inl ?_)
  rw [resets_iff (numberedFrame_reads 1).advertised]
  decide

/-- An agent that has restarted after its first advertisement is not kept for the lifetime it
announces: the host disconnects as if it had not heard it. -/
theorem lifetime_not_raised :
    ¬ ∀ (tr : Machine.Trace MobileHost HostEvent Emission) (h : MobileHost),
      Machine.Run MobileHost.step mobileHost tr h → ∀ x ∈ tr, ∀ now ctx unset p adv,
      x.event = .simpleAction now ctx unset p → Reads p adv → x.after.ConnectedTo adv.IP.source →
      x.after.soliciter.lifetimeTimer = some (now + 1000 * adv.lifetime.toNat) := by
  intro hall
  have hrun := (Machine.Run.nil.snoc (step_hearing mobileHost 0 0)).snoc
    (step_hearing (hearing mobileHost 0 0).1 15000 0)
  have htimer := hall _ _ hrun _ List.mem_concat_self _ _ _ _ _ rfl (numberedFrame_reads 0)
    (by decide)
  exact absurd htimer (by decide)

end Examples

end MobileHost

end MobileIP
