import MobileIP.Proofs.Timers

/-! The timer of the node counts down, and renews the registration when half of it is left. -/

namespace MobileIP

namespace Network

variable {ι : Type} [DecidableEq ι] {routes : Routes ι} {net net' : Network ι} {i : ι}

open MobileIPNode (ticked)

variable {L : UInt32} {home careOf agent : IPAddress} {k a b : ℕ}

theorem runTimer_idle {mn : MobileIPNode} (h : mn.requests = []) (ctx : ℕ → SendContext) :
    mn.runTimer ctx = mn.renewConnection (ctx 0) := by
  have hsame : { mn with requests := [] } = mn := by rw [← h]
  simp [MobileIPNode.runTimer, h, RequestList.decreaseLifetime, RequestList.removeTimedOutRequests,
    MobileIPNode.resendRequests, hsame]

theorem renewConnection_counts {mn : MobileIPNode} (hfin : mn.connection.lifetime ≠ 65535)
    (hpos : 0 < mn.connection.remainingLifetime.toNat)
    (hhalf : mn.connection.lifetime.toNat < 2 * (mn.connection.remainingLifetime.toNat - 1))
    (ctx : SendContext) :
    mn.renewConnection ctx = ({ mn with connection := ticked mn.connection }, []) := by
  have hpred := toNat_pred (toNat_ne_zero.1 hpos.ne')
  have hlt : mn.connection.remainingLifetime > 0 := UInt32.lt_iff_toNat_lt.2 hpos
  have hno : ¬ MobileIPNode.Renews mn.connection mn.requests := by
    intro h
    have := h.half
    omega
  rw [MobileIPNode.renewConnection_idle hno, if_pos ⟨hfin, hlt⟩]

theorem renews_of_half {mn : MobileIPNode} (hfin : mn.connection.lifetime ≠ 65535)
    (hpos : 0 < mn.connection.remainingLifetime.toNat)
    (hhalf : 2 * (mn.connection.remainingLifetime.toNat - 1) ≤ mn.connection.lifetime.toNat)
    (haway : mn.connection.isHome = false) (hidle : mn.requests = []) :
    MobileIPNode.Renews mn.connection mn.requests := by
  have hpred := toNat_pred (toNat_ne_zero.1 hpos.ne')
  exact ⟨hfin, UInt32.lt_iff_toNat_lt.2 hpos, by omega, haway, by rw [hidle]; rfl⟩

theorem Counting.fire_MN_forever (h : Counting routes i L home careOf agent k a b net)
    (hL : L = 65535) (ctx : TimerContext) : net.fire routes i (.MN, ctx) = some net := by
  have htick : net.MN.runTimer ctx.send = (net.MN, []) := by
    rw [runTimer_idle h.renewing.idleMN, MobileIPNode.renewConnection,
      if_neg fun hc => hc.1 (h.renewing.lifetime.trans hL)]
  have hs : net.step routes (timerEvent i ctx .MN) = .ok (net, []) := by
    simp only [timerEvent, step, htick, List.flatMap_nil, List.append_nil]
  exact fire_quiet hs h.quiet

theorem Counting.fire_MN_counts (h : Counting routes i L home careOf agent k a b net)
    (hL : L.toNat < 65535) (hk : 2 * (k + 1) < L.toNat) (ctx : TimerContext) :
    ∃ net', net.fire routes i (.MN, ctx) = some net' ∧
      Counting routes i L home careOf agent (k + 1) a b net' := by
  have hnode := h.counted.node
  have hlife := h.renewing.lifetime
  have hfin := h.renewing.finite hL
  have htick := renewConnection_counts hfin (by omega) (by rw [hlife]; omega) (ctx.send 0)
  rw [← runTimer_idle h.renewing.idleMN] at htick
  refine ⟨{ net with MN := { net.MN with connection := ticked net.MN.connection } }, ?_, h.quiet,
    ?_, ?_⟩
  · have hs : net.step routes (timerEvent i ctx .MN) =
        .ok ({ net with MN := { net.MN with connection := ticked net.MN.connection } }, []) := by
      simp only [timerEvent, step, htick, List.flatMap_nil, List.append_nil]
    exact fire_quiet hs h.quiet
  · exact { h.renewing with }
  · have hpred := toNat_pred (x := net.MN.connection.remainingLifetime)
      (toNat_ne_zero.1 (by omega))
    refine { h.counted with node := ?_ }
    change (net.MN.connection.remainingLifetime - 1).toNat + (k + 1) = L.toNat
    omega

theorem Counting.exchanged (h : Counting routes i L home careOf agent k a b net) (h0 : L ≠ 0)
    (ctx : SendContext) (udp udp' : UDPHeader) (ip ip' : IPHeader) (identification : UInt32)
    (pending : RequestListItem) :
    Counting routes i L home careOf agent 0 0 0
      ((net.asking i ctx L (ticked net.MN.connection)).exchanged i net.MN.requests L
        (plainRequest L net.MN.homeAddress net.HA.publicAddress (net.FA i).careOfAddress udp ip
          identification)
        (grant L net.MN.homeAddress net.HA.publicAddress udp' ip' identification) pending) := by
  have hr := h.renewing
  refine ⟨rfl, ?_, ?_, ?_, ?_⟩
  · simp only [Network.exchanged, Function.update_self]
    exact { hr with isAway := rfl }
  · rfl
  · have hafter : net.HA.bindingsAfter (plainRequest L net.MN.homeAddress net.HA.publicAddress
        (net.FA i).careOfAddress udp ip identification) =
        MobilityBindingList.add net.MN.homeAddress (net.FA i).careOfAddress
          (min L net.HA.maxAcceptedLifetime) net.HA.mobilityBindings := if_neg h0
    refine ⟨⟨net.MN.homeAddress, (net.FA i).careOfAddress, L⟩, ?_, hr.home, hr.careOf, rfl⟩
    change _ ∈ net.HA.bindingsAfter _
    rw [hafter, min_of_toNat_le hr.maxHA]
    exact MobilityBindingList.mem_add _ _ _ _
  · let reply := grant L net.MN.homeAddress net.HA.publicAddress udp' ip' identification
    have hlife : (net.FA i).visitorLifetime reply = L := min_of_toNat_le hr.maxFA
    obtain ⟨v, hv, hm, hreq, hrem⟩ := MobileIPForeignAgent.exists_updateVisitors _
      (Or.inl rfl : reply.Accepting) h0 pending
    refine ⟨v, ?_, ?_, hreq.trans hlife, by rw [hrem, hlife]; rfl⟩
    · simp only [Network.exchanged, Function.update_self]
      exact hv
    · rw [← hr.home, ← hr.agent]
      exact hm

theorem Counting.fire_MN_renews (h : Counting routes i L home careOf agent k a b net)
    (hL : L.toNat < 65535) (hk : L.toNat ≤ 2 * (k + 1)) (hpos : k < L.toNat) {ctx : TimerContext}
    (hid : (ctx.send 0).identification ≠ 0) :
    ∃ net', net.fire routes i (.MN, ctx) = some net' ∧
      Counting routes i L home careOf agent 0 0 0 net' := by
  have hr := h.renewing
  have hnode := h.counted.node
  have hfin := hr.finite hL
  have h0 : L ≠ 0 := toNat_ne_zero.1 (by omega)
  -- the tick asks the foreign agent for the whole lifetime
  have htick := MobileIPNode.renewConnection_renews
    (renews_of_half hfin (by omega) (by rw [hr.lifetime]; omega) hr.isAway hr.idleMN) (ctx.send 0)
  rw [← runTimer_idle hr.idleMN, hr.agentAddress, hr.careOfAddress, hr.lifetime,
    MobileIPNode.registerFA_eq] at htick
  have hs : net.step routes (timerEvent i ctx .MN) =
      .ok (net.asking i (ctx.send 0) L (ticked net.MN.connection),
        [⟨0, .request (net.MN.sentDatagram (ctx.send 0) (net.FA i).privateAddress
          (net.FA i).careOfAddress L)⟩]) := by
    have hdest : (net.MN.sentDatagram (ctx.send 0) (net.FA i).privateAddress
      (net.FA i).careOfAddress L).destination = (net.FA i).privateAddress := rfl
    simp only [timerEvent, step, htick, h.quiet, List.nil_append, List.flatMap_cons,
      List.flatMap_nil, List.append_nil, Routes.fromMN, MobileIPNode.sentDatagram] at hdest ⊢
    simp only [hdest, hr.link]
    rfl
  -- and the exchange that follows grants it
  have hfresh : net.Fresh i (ctx.send 0).identification :=
    ⟨hid, by simp [hr.idleMN], by simp [hr.idleFA]⟩
  have hasked := h.linked.asked hr.homeAgent hfresh h0 (by omega) (ticked net.MN.connection)
  have hlinked : (net.asking i (ctx.send 0) L (ticked net.MN.connection)).Linked routes i :=
    ⟨hr.link, hr.toFA, hr.toHA, hr.away, hr.portMN, hr.portFA⟩
  have hmax : net.HA.maxAcceptedLifetime ≠ 0 := by
    have := hr.maxHA
    exact toNat_ne_zero.1 (by omega)
  have hroom : RequestList.size (net.FA i).requests < (net.FA i).maxPendingRegistrations := by
    rw [hr.idleFA, UInt32.lt_iff_toNat_lt]
    exact hr.room
  obtain ⟨udp, udp', ip, ip', pending, out, hset, -⟩ :=
    settle_granted hasked hlinked hroom hmax hr.maxFA ctx.handle 0
  have hend := h.exchanged h0 (ctx.send 0) udp udp' ip ip' (ctx.send 0).identification pending
  refine ⟨_, ?_, hend⟩
  have hsent : (MobileIPNode.sentItem (ctx.send 0) (net.FA i).privateAddress
    (net.FA i).careOfAddress L).requestedLifetime = L := rfl
  rw [hsent, show (net.asking i (ctx.send 0) L (ticked net.MN.connection)).HA = net.HA from rfl,
    min_of_toNat_le hr.maxHA] at hset
  simp only [fire, hs, hset]
  exact if_pos rfl

end Network

end MobileIP
