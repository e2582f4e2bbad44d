import MobileIP.Lib.Run
import MobileIP.Proofs.Messages
import MobileIP.Spec.Definitions

/-! What an advertisement makes the mobile host do: one that cannot be read, and one of the home
agent when the host comes home. -/

namespace MobileIP

theorem MobileIPNode.reregister_out (mn : MobileIPNode) (ctx : SendContext)
    (address careOfAddress : IPAddress) (lifetime : UInt32) :
    (mn.reregister ctx address careOfAddress lifetime).2 ≠ [] := by
  unfold MobileIPNode.reregister
  by_cases h : mn.homeAgentPrivateAddress = address
  · simp [h, deregister, sendRequest]
  · simp [h, registerFA, sendRequest]

theorem add_one_ne (x : UInt32) : x + 1 ≠ x := by
  intro h
  have := congrArg UInt32.toNat h
  rw [UInt32.toNat_add] at this
  have hx := x.toNat_lt
  change (x.toNat + 1) % 4294967296 = x.toNat at this
  omega

/-- The advertisement that the soliciter goes on with: the one it could read, or else an unset
one. -/
def HostEvent.advertised : HostEvent → Option RouterAdvertisement
  | .simpleAction _ _ unset p =>
    if getPacketType p ≠ .advertisement then none
    else
      match (processRouterAdvertisementMessage (processEtherHeader p true).2).1 with
      | .error _ => some unset.adv
      | .ok adv => some adv
  | _ => none

namespace MobileHost

variable {h h' h₀ : MobileHost} {now : ℕ} {ctx : SendContext} {unset : UnsetAdvertisement}
  {ether : EtherHeader} {adv : RouterAdvertisement} {p : Packet}

theorem connect_out (h : MobileHost) (now : ℕ) (ctx : SendContext) (adv : RouterAdvertisement)
    (ether : EtherHeader) : (h.connect now ctx adv ether true).2 ≠ [] :=
  MobileIPNode.reregister_out _ _ _ _ _

theorem simpleAction_cases {out : List Emission}
    (hs : h.step (.simpleAction now ctx unset p) = .ok (h', out)) :
    ((HostEvent.simpleAction now ctx unset p).advertised = none ∧ h' = h ∧ out = []) ∨
      ∃ adv, (HostEvent.simpleAction now ctx unset p).advertised = some adv ∧
        h.processAdvertisement now ctx (processEtherHeader p true).1 adv = (h', out) := by
  simp only [step, simpleAction, HostEvent.advertised] at hs ⊢
  split_ifs at hs ⊢
  · cases hs
    exact Or.inl ⟨rfl, rfl, rfl⟩
  · right
    split at hs
    · next he => exact ⟨unset.adv, by rw [he], Except.ok.inj hs⟩
    · next he => exact ⟨unset.adv, by rw [he], Except.ok.inj hs⟩
    · cases hs
    · next adv hadv => exact ⟨adv, by rw [hadv], Except.ok.inj hs⟩

/-- An advertisement has no effect exactly when the host is connected to another agent, does not
move fast, and the advertisement is not from the home agent. -/
theorem processAdvertisement_idle_iff :
    h.processAdvertisement now ctx ether adv = (h, []) ↔
      h.MN.homeAgentPrivateAddress ≠ adv.IP.source ∧ h.soliciter.connected = true ∧
        h.soliciter.agentAddress ≠ adv.IP.source ∧ h.soliciter.enableFastMoving = false := by
  have hcounts : ∀ t, ({ h with soliciter := { h.soliciter with
      advertisementSequenceNumber := h.soliciter.advertisementSequenceNumber + 1
      lifetimeTimer := t } }, ([] : List Emission)) ≠ (h, []) := by
    intro t heq
    have := congrArg (fun r => r.1.soliciter.advertisementSequenceNumber) heq
    exact add_one_ne _ this
  unfold processAdvertisement
  by_cases hhome : adv.IP.source = h.MN.homeAgentPrivateAddress
  · refine iff_of_false ?_ fun hr => hr.1 hhome.symm
    rw [if_pos hhome]
    split_ifs with hconn hfirst
    · exact hcounts _
    · intro heq
      have := congrArg (fun r => r.1.soliciter.firstConnection) heq
      simp [connect, MobileIPSoliciter.raiseLifetime, MobileIPSoliciter.disconnect, hfirst] at this
    · exact fun heq => connect_out _ _ _ _ _ (congrArg Prod.snd heq)
  rw [if_neg hhome]
  by_cases hconn : h.soliciter.connected = false
  · rw [if_pos hconn]
    refine iff_of_false (fun heq => connect_out _ _ _ _ _ (congrArg Prod.snd heq)) fun hr => ?_
    exact absurd (hconn.symm.trans hr.2.1) (by decide)
  rw [if_neg hconn]
  by_cases hagent : h.soliciter.agentAddress = adv.IP.source
  · rw [if_pos hagent]
    refine iff_of_false ?_ fun hr => hr.2.2.1 hagent
    split_ifs
    · exact fun heq => MobileIPNode.reregister_out _ _ _ _ _ (congrArg Prod.snd heq)
    · exact hcounts _
  rw [if_neg hagent]
  by_cases hfast : h.soliciter.enableFastMoving = true
  · rw [if_pos hfast]
    refine iff_of_false (fun heq => connect_out _ _ _ _ _ (congrArg Prod.snd heq)) fun hr => ?_
    exact absurd (hfast.symm.trans hr.2.2.2) (by decide)
  rw [if_neg hfast]
  exact iff_of_true rfl ⟨fun heq => hhome heq.symm, eq_true_of_ne_false hconn, hagent,
    eq_false_of_ne_true hfast⟩

def Reads (p : Packet) (adv : RouterAdvertisement) : Prop :=
  getPacketType p = .advertisement ∧
    (processRouterAdvertisementMessage (processEtherHeader p true).2).1 = .ok adv

theorem simpleAction_of_error (h : MobileHost) (now : ℕ) (ctx : SendContext)
    (unset : UnsetAdvertisement) {e : Exception} (hp : getPacketType p = .advertisement)
    (he : (processRouterAdvertisementMessage (processEtherHeader p true).2).1 = .error e) :
    h.simpleAction now ctx unset p =
      .ok (h.processAdvertisement now ctx (processEtherHeader p true).1 unset.adv) := by
  obtain ⟨_, rfl⟩ | ⟨_, rfl⟩ := (processRouterAdvertisementMessage_error he).cases
  · simp only [simpleAction, hp, he, ne_eq, not_true_eq_false, if_false]
  · simp only [simpleAction, hp, he, ne_eq, not_true_eq_false, if_false]

/-- An advertisement that cannot be read is handled as one from 0.0.0.0. -/
theorem corrupted_advertisement_ignored_iff (h : MobileHost) (now : ℕ) (ctx : SendContext)
    (unset : UnsetAdvertisement) {p : Packet} {e : Exception}
    (hp : getPacketType p = .advertisement)
    (he : (processRouterAdvertisementMessage (processEtherHeader p true).2).1 = .error e) :
    h.simpleAction now ctx unset p = .ok (h, []) ↔
      h.MN.homeAgentPrivateAddress ≠ .zero ∧ h.soliciter.connected = true ∧
        h.soliciter.agentAddress ≠ .zero ∧ h.soliciter.enableFastMoving = false := by
  rw [simpleAction_of_error h now ctx unset hp he, Except.ok.injEq]
  exact processAdvertisement_idle_iff

section Examples

open Definitions

def corruptedAdvertisement : Packet :=
  (advertisementFrom foreignAgentPrivateAddress foreignAgentPublicAddress false).setU8 40 7

theorem corrupted_advertisement_ignored_connected :
    let h := (mobileHost.connect 0 (sendAt 1) (advertisementRead foreignAgentPrivateAddress
      foreignAgentPublicAddress false) ⟨.zero, .zero⟩ true).1
    h.simpleAction 5000 (sendAt 2) ⟨0, 0, 0, 0, false, false⟩ corruptedAdvertisement = .ok (h, []) :=
  (corrupted_advertisement_ignored_iff _ _ _ _ (by decide +kernel)
    (by decide +kernel : _ = Except.error (.invalidChecksum "Advertisement"))).2 (by decide)

/-- A host that is not connected answers it with a request to 0.0.0.0. -/
theorem corrupted_advertisement_registers :
    ¬ ∀ tr h, Machine.Run MobileHost.step mobileHost tr h → ∀ now ctx unset p e,
      getPacketType p = .advertisement →
      (processRouterAdvertisementMessage (processEtherHeader p true).2).1 = .error e →
        h.simpleAction now ctx unset p = .ok (h, []) := by
  intro hall
  have heq := hall _ _ .nil 0 (sendAt 1) ⟨0, 0, 0, 0, false, false⟩ corruptedAdvertisement
    (.invalidChecksum "Advertisement") (by decide +kernel) (by decide +kernel)
  exact absurd heq (by decide +kernel)

end Examples

def ComesHome (x : Machine.Entry MobileHost HostEvent Emission) : Prop :=
  ∃ now ctx unset p adv, x.event = .simpleAction now ctx unset p ∧ Reads p adv ∧
    adv.IP.source = x.before.MN.homeAgentPrivateAddress ∧
    ¬ (x.before.soliciter.connected = true ∧
      x.before.soliciter.agentAddress = x.before.MN.homeAgentPrivateAddress)

def ReadableStep (x : Machine.Entry MobileHost HostEvent Emission) : Prop :=
  ∀ now ctx unset p, x.event = .simpleAction now ctx unset p →
    getPacketType p = .advertisement → ∃ adv, Reads p adv

theorem Reads.unique {adv' : RouterAdvertisement} (hr : Reads p adv) (hr' : Reads p adv') :
    adv = adv' := Except.ok.inj (hr.2.symm.trans hr'.2)

theorem simpleAction_of_reads (hr : Reads p adv) (h : MobileHost) (now : ℕ) (ctx : SendContext)
    (unset : UnsetAdvertisement) : h.simpleAction now ctx unset p =
      .ok ((h.processAdvertisement now ctx (processEtherHeader p true).1 adv).1,
        (h.processAdvertisement now ctx (processEtherHeader p true).1 adv).2) := by
  simp only [simpleAction, hr.1, hr.2, ne_eq, not_true_eq_false, if_false]

theorem processAdvertisement_firstConnection :
    (h.processAdvertisement now ctx ether adv).1.soliciter.firstConnection = false ↔
      h.soliciter.firstConnection = false ∨
        (adv.IP.source = h.MN.homeAgentPrivateAddress ∧
          ¬ (h.soliciter.connected = true ∧
            h.soliciter.agentAddress = h.MN.homeAgentPrivateAddress)) := by
  unfold processAdvertisement
  by_cases hhome : adv.IP.source = h.MN.homeAgentPrivateAddress
  · rw [if_pos hhome, hhome]
    split_ifs with hconn hfirst
    · simp [MobileIPSoliciter.raiseLifetime, hconn]
    · simp [connect, MobileIPSoliciter.raiseLifetime, MobileIPSoliciter.disconnect, hconn]
    · have hfalse := eq_false_of_ne_true hfirst
      simp [connect, MobileIPSoliciter.raiseLifetime, MobileIPSoliciter.disconnect, hfalse]
  · rw [if_neg hhome]
    split_ifs
    all_goals simp [connect, MobileIPSoliciter.raiseLifetime, MobileIPSoliciter.disconnect, hhome]

theorem step_soliciter {e : HostEvent} {out : List Emission} (hs : h.step e = .ok (h', out))
    (he : ∀ now ctx unset p, e ≠ .simpleAction now ctx unset p) :
    h'.soliciter = { h.soliciter with
        enableFastMoving := h'.soliciter.enableFastMoving } ∨
      e = .lifetimeExpired ∧ h' = h.lifetimeExpired := by
  cases e with
  | simpleAction now ctx unset p => exact absurd rfl (he now ctx unset p)
  | lifetimeExpired =>
    cases hs
    exact Or.inr ⟨rfl, rfl⟩
  | enableFastMoving value =>
    cases hs
    exact Or.inl rfl
  | push ctx p =>
    simp only [step] at hs
    split at hs
    · cases hs
    · cases hs
      exact Or.inl rfl
  | runTimer ctx =>
    cases hs
    exact Or.inl rfl
  | requestTimeout value =>
    cases hs
    exact Or.inl rfl

theorem step_firstConnection_of_ne {e : HostEvent} {out : List Emission}
    (hs : h.step e = .ok (h', out)) (he : ∀ now ctx unset p, e ≠ .simpleAction now ctx unset p) :
    h'.soliciter.firstConnection = h.soliciter.firstConnection := by
  rcases step_soliciter hs he with hsame | ⟨-, rfl⟩
  · rw [hsame]
  · rfl

theorem firstConnection_step {x : Machine.Entry MobileHost HostEvent Emission}
    (hx : x.before.step x.event = .ok (x.after, x.out)) (hr : ReadableStep x) :
    x.after.soliciter.firstConnection = false ↔
      x.before.soliciter.firstConnection = false ∨ ComesHome x := by
  by_cases he : ∃ now ctx unset p, x.event = .simpleAction now ctx unset p
  · obtain ⟨now, ctx, unset, p, hev⟩ := he
    rw [hev] at hx
    by_cases hp : getPacketType p = .advertisement
    · obtain ⟨adv, hadv⟩ := hr now ctx unset p hev hp
      rw [step, simpleAction_of_reads hadv, Except.ok.injEq, Prod.mk.injEq] at hx
      rw [← hx.1, processAdvertisement_firstConnection]
      refine or_congr Iff.rfl ⟨fun hc => ⟨now, ctx, unset, p, adv, hev, hadv, hc.1, hc.2⟩, ?_⟩
      intro hhome
      obtain ⟨_, _, _, p', adv', hev', hadv', hc⟩ := hhome
      obtain ⟨-, -, -, rfl⟩ := HostEvent.simpleAction.inj (hev.symm.trans hev')
      rw [hadv.unique hadv']
      exact hc
    · have hnot : ¬ ComesHome x := by
        intro hhome
        obtain ⟨_, _, _, p', adv, hev', hadv, -⟩ := hhome
        obtain ⟨-, -, -, rfl⟩ := HostEvent.simpleAction.inj (hev.symm.trans hev')
        exact hp hadv.1
      simp only [step, simpleAction, ne_eq, hp, not_false_eq_true, if_true, Except.ok.injEq,
        Prod.mk.injEq] at hx
      rw [← hx.1, or_iff_left hnot]
  · have hne : ∀ now ctx unset p, x.event ≠ .simpleAction now ctx unset p :=
      fun now ctx unset p hev => he ⟨now, ctx, unset, p, hev⟩
    have hnot : ¬ ComesHome x := by
      intro hhome
      obtain ⟨now, ctx, unset, p, -, hev, -⟩ := hhome
      exact hne now ctx unset p hev
    rw [step_firstConnection_of_ne hx hne, or_iff_left hnot]

/-- The flag tells whether the host has come home before in the run. -/
theorem firstConnection_run {tr : Machine.Trace MobileHost HostEvent Emission}
    (h0 : h₀.soliciter.firstConnection = true) (hrun : Machine.Run MobileHost.step h₀ tr h)
    (hr : ∀ x ∈ tr, ReadableStep x) :
    h.soliciter.firstConnection = false ↔ ∃ y ∈ tr, ComesHome y := by
  induction hrun with
  | nil => simp [h0]
  | @snoc tr s s' e out _ hs ih =>
    have hstep : s'.soliciter.firstConnection = false ↔ _ :=
      firstConnection_step (x := ⟨s, e, out, s'⟩) hs (hr _ (by simp))
    rw [hstep, ih fun x hx => hr x (by simp [hx])]
    simp only [List.mem_append, List.mem_singleton, or_and_right, exists_or, exists_eq_left]

/-- The last of the requests that count was one for a lifetime, to an agent other than `home`. -/
def AwayRegistered (home : IPAddress) (out : List Emission) : Prop :=
  ∃ pre e post, out = pre ++ e :: post ∧ (∃ l, e.requestedLifetime = some l ∧ l ≠ 0) ∧
    e.destination ≠ home ∧ ∀ e' ∈ post, e'.requestedLifetime ≠ some 0

def Deregisters (home : IPAddress) (out : List Emission) : Prop :=
  ∃ e ∈ out, e.requestedLifetime = some 0 ∧ e.destination = home

instance (home : IPAddress) (out : List Emission) : Decidable (Deregisters home out) :=
  inferInstanceAs (Decidable (∃ e ∈ out, e.requestedLifetime = some 0 ∧ e.destination = home))

theorem deregisters_iff {x : Machine.Entry MobileHost HostEvent Emission}
    (hx : x.before.step x.event = .ok (x.after, x.out)) (hhome : ComesHome x) :
    Deregisters x.before.MN.homeAgentPrivateAddress x.out ↔
      x.before.soliciter.firstConnection = false := by
  obtain ⟨now, ctx, unset, p, adv, hev, hadv, hsource, hnot⟩ := hhome
  rw [hev, step, simpleAction_of_reads hadv, Except.ok.injEq, Prod.mk.injEq] at hx
  rw [← hx.2]
  unfold processAdvertisement
  dsimp only
  rw [if_pos hsource, hsource, if_neg hnot]
  by_cases hfirst : x.before.soliciter.firstConnection = true
  · rw [if_pos hfirst]
    refine iff_of_false (fun hd => ?_) (by simp [hfirst])
    obtain ⟨e, he, -⟩ := hd
    simp [connect] at he
  · rw [if_neg hfirst]
    refine iff_of_true ?_ (eq_false_of_ne_true hfirst)
    simp only [connect, hsource, MobileIPNode.reregister, if_true]
    exact ⟨_, List.mem_singleton_self _, rfl, rfl⟩

/-- In a run of a new host whose advertisements can all be read, a homecoming after a registration
elsewhere deregisters exactly when it is not the first homecoming of the run. -/
theorem homecoming_deregisters_iff {tr : Machine.Trace MobileHost HostEvent Emission}
    (h0 : h₀.soliciter.firstConnection = true) (hrun : Machine.Run MobileHost.step h₀ tr h)
    (hr : ∀ x ∈ tr, ReadableStep x) :
    ∀ pre x post, tr = pre ++ x :: post → ComesHome x →
      AwayRegistered x.before.MN.homeAgentPrivateAddress (Machine.Trace.outputs pre) →
        (Deregisters x.before.MN.homeAgentPrivateAddress x.out ↔ ∃ y ∈ pre, ComesHome y) := by
  intro pre x post htr hhome _
  subst htr
  rw [deregisters_iff (hrun.step_mem x (by simp)) hhome]
  exact firstConnection_run h0 (hrun.to_entry pre x post rfl) fun y hy => hr y (by simp [hy])

section Examples

open Definitions

theorem foreign_reads : Reads (advertisementFrom foreignAgentPrivateAddress
    foreignAgentPublicAddress false) (advertisementRead foreignAgentPrivateAddress
    foreignAgentPublicAddress false) := ⟨by decide +kernel, by decide +kernel⟩

theorem home_reads : Reads (advertisementFrom homeAgentPrivateAddress homeAgentPublicAddress true)
    (advertisementRead homeAgentPrivateAddress homeAgentPublicAddress true) :=
  ⟨by decide +kernel, by decide +kernel⟩

theorem readableStep_of_reads {x : Machine.Entry MobileHost HostEvent Emission} (hr : Reads p adv)
    (hev : x.event = advertisementArrives now p) : ReadableStep x := by
  intro now' ctx unset p' hev' _
  obtain ⟨-, -, -, rfl⟩ := HostEvent.simpleAction.inj (hev.symm.trans hev')
  exact ⟨adv, hr⟩

theorem step_lifetimeExpired (h : MobileHost) :
    h.step .lifetimeExpired = .ok (h.lifetimeExpired, []) := rfl

theorem step_advertisementArrives (hr : Reads p adv) (h : MobileHost) (now : ℕ) :
    h.step (advertisementArrives now p) = .ok ((h.processAdvertisement now (sendAt 1)
      (processEtherHeader p true).1 adv).1, (h.processAdvertisement now (sendAt 1)
      (processEtherHeader p true).1 adv).2) := simpleAction_of_reads hr _ _ _ _

theorem comesHome_of_reads {x : Machine.Entry MobileHost HostEvent Emission}
    (hev : x.event = advertisementArrives now
      (advertisementFrom homeAgentPrivateAddress homeAgentPublicAddress true))
    (hm : x.before.MN.homeAgentPrivateAddress = homeAgentPrivateAddress)
    (hn : ¬ (x.before.soliciter.connected = true ∧
      x.before.soliciter.agentAddress = x.before.MN.homeAgentPrivateAddress)) : ComesHome x :=
  ⟨_, _, _, _, _, hev, home_reads, hm.symm, hn⟩

/-- A host that is at home, loses the link, registers with a foreign agent and comes home again. -/
theorem homecoming_deregisters_second :
    ∃ tr h pre x post, Machine.Run MobileHost.step mobileHost tr h ∧ tr = pre ++ x :: post ∧
      ComesHome x ∧ Deregisters x.before.MN.homeAgentPrivateAddress x.out := by
  have hrun := (((Machine.Run.nil.snoc (step_advertisementArrives home_reads mobileHost 0)).snoc
    (step_lifetimeExpired _)).snoc (step_advertisementArrives foreign_reads _ 40000)).snoc
    (step_advertisementArrives home_reads _ 45000)
  have hlast := homecoming_deregisters_iff rfl hrun ?_ _ _ [] rfl
    (comesHome_of_reads rfl rfl (by decide)) ?_
  · refine ⟨_, _, _, _, [], hrun, rfl, comesHome_of_reads rfl rfl (by decide), hlast.2 ?_⟩
    exact ⟨_, List.mem_cons_self, comesHome_of_reads rfl rfl (by decide)⟩
  · intro x hx
    simp only [List.nil_append, List.cons_append, List.mem_cons, List.not_mem_nil, or_false] at hx
    rcases hx with rfl | rfl | rfl | rfl
    · exact readableStep_of_reads home_reads rfl
    · intro _ _ _ _ hev
      cases hev
    · exact readableStep_of_reads foreign_reads rfl
    · exact readableStep_of_reads home_reads rfl
  · exact ⟨[], _, [], rfl, ⟨1800, rfl, by decide⟩, by decide, by simp⟩

/-- A host that first hears a foreign agent and then comes home does not deregister. -/
theorem first_homecoming_silent :
    ¬ ∀ tr h, Machine.Run MobileHost.step mobileHost tr h → (∀ x ∈ tr, ReadableStep x) →
      ∀ pre x post, tr = pre ++ x :: post → ComesHome x →
        AwayRegistered x.before.MN.homeAgentPrivateAddress (Machine.Trace.outputs pre) →
          Deregisters x.before.MN.homeAgentPrivateAddress x.out := by
  intro hall
  have hrun := (Machine.Run.nil.snoc (step_advertisementArrives foreign_reads mobileHost 0)).snoc
    (step_advertisementArrives home_reads _ 5000)
  have hd := hall _ _ hrun ?_ _ _ [] rfl ?_ ?_
  · exact absurd hd (by decide)
  · intro x hx
    rcases List.mem_append.1 hx with hx | hx
    · exact readableStep_of_reads foreign_reads (by rw [List.mem_singleton.1 hx])
    · exact readableStep_of_reads home_reads (by rw [List.mem_singleton.1 hx])
  · exact comesHome_of_reads rfl rfl (by decide)
  · exact ⟨[], _, [], rfl, ⟨1800, rfl, by decide⟩, by decide, by simp⟩

end Examples

end MobileHost

end MobileIP
