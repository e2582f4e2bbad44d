import MobileIP.Proofs.Renewing

/-! A registration that is renewed in time does not lapse. The three timers fire once in every
round, in any order, and the node renews when half the lifetime is left: by then the counters of its
agents are at most two ticks ahead of its own. -/

namespace MobileIP

namespace Network

variable {ι : Type} [DecidableEq ι] {routes : Routes ι} {net net' : Network ι} {i : ι}

section Timers

open MobileIPNode (ticked)

variable {L : UInt32} {home careOf agent : IPAddress} {k a b : ℕ}

/-- The counter of an agent is as far as that of the node, or one tick ahead of it, once the timers
that have fired in the round are set off against each other. -/
def Abreast (fired : List Timer) (party : Timer) (k a : ℕ) : Prop :=
  k + fired.count party ≤ a + fired.count .MN ∧ a + fired.count .MN ≤ k + fired.count party + 1

section Abreast

variable {fired : List Timer} {t party : Timer}

theorem Abreast.node (h : Abreast fired party k a) (hne : party ≠ .MN) :
    Abreast (.MN :: fired) party (k + 1) a := by
  obtain ⟨hle, hle'⟩ := h
  rw [Abreast, List.count_cons_self, List.count_cons_of_ne hne.symm]
  omega

theorem Abreast.tick (h : Abreast fired party k a) (hne : party ≠ .MN) :
    Abreast (party :: fired) party k (a + 1) := by
  obtain ⟨hle, hle'⟩ := h
  rw [Abreast, List.count_cons_self, List.count_cons_of_ne hne]
  omega

theorem Abreast.other (h : Abreast fired party k a) (hne : t ≠ party) (hne' : t ≠ .MN) :
    Abreast (t :: fired) party k a := by
  rw [Abreast, List.count_cons_of_ne hne, List.count_cons_of_ne hne']
  exact h

theorem abreast_renewed (h : (Timer.MN :: fired).Nodup) (hne : party ≠ .MN) :
    Abreast (.MN :: fired) party 0 0 := by
  have hMN := List.count_eq_zero.2 (List.nodup_cons.1 h).1
  have hle := List.nodup_iff_count_le_one.1 (List.nodup_cons.1 h).2 party
  rw [Abreast, List.count_cons_self, List.count_cons_of_ne hne.symm]
  omega

/-- The node renews before an agent that has not fired in the round can run out. -/
theorem Abreast.lt (h : Abreast fired party k a) (hnew : party ∉ fired) {L : ℕ} (hL : 4 ≤ L)
    (hk : 2 * k < L) : a + 1 < L := by
  have hle := h.2
  rw [List.count_eq_zero.2 hnew] at hle
  omega

end Abreast

/-- The network within a round in which the timers `fired` have fired. -/
def InRound (routes : Routes ι) (i : ι) (L : UInt32) (home careOf agent : IPAddress)
    (fired : List Timer) (net : Network ι) : Prop :=
  ∃ k a b, Counting routes i L home careOf agent k a b net ∧
    ((L = 65535 ∧ k = 0 ∧ a = 0 ∧ b = 0) ∨
      (L.toNat < 65535 ∧ 2 * k < L.toNat ∧ Abreast fired .HA k a ∧ Abreast fired .FA k b))

/-- A timer that has not yet fired in the round finds the counters far enough from the end. -/
theorem InRound.fire {fired : List Timer} (h : InRound routes i L home careOf agent fired net)
    (hL : 4 ≤ L.toNat) {t : Timer} (ht : (t :: fired).Nodup) {ctx : TimerContext}
    (hid : ∀ j, (ctx.send j).identification ≠ 0) :
    ∃ net', net.fire routes i (t, ctx) = some net' ∧
      InRound routes i L home careOf agent (t :: fired) net' := by
  have hnew := (List.nodup_cons.1 ht).1
  obtain ⟨k, a, b, hc, ⟨hinf, rfl, rfl, rfl⟩ | ⟨hfin, hk, ha, hb⟩⟩ := h
  · cases t with
    | MN => exact ⟨net, hc.fire_MN_forever hinf ctx, 0, 0, 0, hc, Or.inl ⟨hinf, rfl, rfl, rfl⟩⟩
    | FA =>
      obtain ⟨net', hf, hc'⟩ := hc.fire_FA (visitor_forever hinf hc.counted.visitor) ctx
      exact ⟨net', hf, 0, 0, 0, hc', Or.inl ⟨hinf, rfl, rfl, rfl⟩⟩
    | HA =>
      obtain ⟨net', hf, hc'⟩ := hc.fire_HA (binding_forever hinf hc.counted.binding) ctx
      exact ⟨net', hf, 0, 0, 0, hc', Or.inl ⟨hinf, rfl, rfl, rfl⟩⟩
  · cases t with
    | MN =>
      by_cases hhalf : 2 * (k + 1) < L.toNat
      · obtain ⟨net', hf, hc'⟩ := hc.fire_MN_counts hfin hhalf ctx
        exact ⟨net', hf, k + 1, a, b, hc',
          Or.inr ⟨hfin, hhalf, ha.node (by decide), hb.node (by decide)⟩⟩
      · obtain ⟨net', hf, hc'⟩ := hc.fire_MN_renews hfin (by omega) (by omega) (hid 0)
        exact ⟨net', hf, 0, 0, 0, hc', Or.inr ⟨hfin, by omega, abreast_renewed ht (by decide),
          abreast_renewed ht (by decide)⟩⟩
    | FA =>
      obtain ⟨net', hf, hc'⟩ :=
        hc.fire_FA (visitor_tick hfin (hb.lt hnew hL hk) hc.counted.visitor) ctx
      exact ⟨net', hf, k, a, b + 1, hc',
        Or.inr ⟨hfin, hk, ha.other (by decide) (by decide), hb.tick (by decide)⟩⟩
    | HA =>
      obtain ⟨net', hf, hc'⟩ :=
        hc.fire_HA (binding_tick hfin (ha.lt hnew hL hk) hc.counted.binding) ctx
      exact ⟨net', hf, k, a + 1, b, hc',
        Or.inr ⟨hfin, hk, ha.tick (by decide), hb.other (by decide) (by decide)⟩⟩

theorem InRound.fireAll {fired : List Timer} (h : InRound routes i L home careOf agent fired net)
    (hL : 4 ≤ L.toNat) {ts : List (Timer × TimerContext)} (ht : (ts.map Prod.fst ++ fired).Nodup)
    (hid : ∀ t ∈ ts, ∀ j, (t.2.send j).identification ≠ 0) :
    ∃ net', net.fireAll routes i ts = some net' ∧
      InRound routes i L home careOf agent ((ts.map Prod.fst).reverse ++ fired) net' := by
  induction ts generalizing net fired with
  | nil => exact ⟨net, rfl, h⟩
  | cons t ts ih =>
    rw [List.map_cons, List.cons_append] at ht
    have hrest : (ts.map Prod.fst ++ t.1 :: fired).Nodup := List.nodup_middle.2 ht
    have hfirst : (t.1 :: fired).Nodup := (List.nodup_append.1 hrest).2.1
    obtain ⟨net₁, hf, h₁⟩ := h.fire hL hfirst (hid t List.mem_cons_self)
    obtain ⟨net', hfs, h'⟩ := ih h₁ hrest fun t ht => hid t (List.mem_cons_of_mem _ ht)
    refine ⟨net', ?_, ?_⟩
    · simp only [Network.fireAll, hf, hfs]
    · simpa using h'

omit [DecidableEq ι] in
theorem InRound.next {fired : List Timer} (h : InRound routes i L home careOf agent fired net)
    (hp : fired.Perm [.MN, .FA, .HA]) : InRound routes i L home careOf agent [] net := by
  obtain ⟨k, a, b, hc, hinf | ⟨hfin, hk, ha, hb⟩⟩ := h
  · exact ⟨k, a, b, hc, Or.inl hinf⟩
  · refine ⟨k, a, b, hc, Or.inr ⟨hfin, hk, ?_, ?_⟩⟩
    · simpa [Abreast, hp.count_eq] using ha
    · simpa [Abreast, hp.count_eq] using hb

theorem InRound.rounds (h : InRound routes i L home careOf agent [] net) (hL : 4 ≤ L.toNat)
    {rounds : List (List (Timer × TimerContext))}
    (hr : ∀ r ∈ rounds, (r.map Prod.fst).Perm [.MN, .FA, .HA])
    (hid : ∀ r ∈ rounds, ∀ t ∈ r, ∀ j, (t.2.send j).identification ≠ 0) :
    ∃ net', net.fireAll routes i rounds.flatten = some net' ∧
      InRound routes i L home careOf agent [] net' := by
  induction rounds generalizing net with
  | nil => exact ⟨net, rfl, h⟩
  | cons r rounds ih =>
    have hp := hr r List.mem_cons_self
    have hnodup : (r.map Prod.fst).Nodup := hp.nodup_iff.2 (by decide)
    obtain ⟨net₁, hf, h₁⟩ := h.fireAll hL (by simpa using hnodup) (hid r List.mem_cons_self)
    rw [List.append_nil] at h₁
    obtain ⟨net', hfs, h'⟩ := ih (h₁.next ((List.reverse_perm _).trans hp))
      (fun r hmem => hr r (List.mem_cons_of_mem _ hmem))
      (fun r hmem => hid r (List.mem_cons_of_mem _ hmem))
    refine ⟨net', ?_, h'⟩
    rw [List.flatten_cons, fireAll_append, hf, Option.bind_some, hfs]

omit [DecidableEq ι] in
theorem Registered.inRound (h : net.Registered routes i L) (hL : 4 ≤ L.toNat)
    (hL' : L.toNat ≤ 65535) :
    InRound routes i L net.MN.homeAddress (net.FA i).careOfAddress net.HA.publicAddress [] net := by
  obtain ⟨port, hv⟩ := h.visitor
  have hc : Counting routes i L net.MN.homeAddress (net.FA i).careOfAddress net.HA.publicAddress
      0 0 0 net :=
    { quiet := h.quiet
      renewing :=
        { h with
          portMN := h.MN.sourcePort
          portFA := h.FA.sourcePort
          home := rfl
          careOf := rfl
          agent := rfl }
      counted :=
        { node := by rw [h.connection]; rfl
          binding := ⟨_, h.binding, rfl, rfl, rfl⟩
          visitor := ⟨_, hv, ⟨rfl, rfl⟩, rfl, rfl⟩ } }
  refine ⟨0, 0, 0, hc, ?_⟩
  by_cases hinf : L = 65535
  · exact Or.inl ⟨hinf, rfl, rfl, rfl⟩
  · have hne : L.toNat ≠ 65535 := fun heq => hinf (UInt32.toNat_inj.1 heq)
    refine Or.inr ⟨by omega, by omega, ?_, ?_⟩
    · simp [Abreast]
    · simp [Abreast]

/-- A registration that all three parties hold does not lapse while every message arrives: after any
number of rounds, the timers of each in any order, the home agent has the binding, the foreign agent
the visitor and the node a lifetime. -/
theorem no_lapse (h : net.Registered routes i L) (hL : 4 ≤ L.toNat) (hL' : L.toNat ≤ 65535)
    (rounds : List (List (Timer × TimerContext)))
    (hr : ∀ r ∈ rounds, (r.map Prod.fst).Perm [.MN, .FA, .HA])
    (hid : ∀ r ∈ rounds, ∀ t ∈ r, ∀ j, (t.2.send j).identification ≠ 0) :
    ∃ net', net.fireAll routes i rounds.flatten = some net' ∧
      (∃ it ∈ net'.HA.mobilityBindings, it.homeAddress = net.MN.homeAddress ∧
        it.careOfAddress = (net.FA i).careOfAddress) ∧
      VisitorList.has net.MN.homeAddress net.HA.publicAddress (net'.FA i).visitors = true ∧
      0 < net'.MN.connection.remainingLifetime := by
  obtain ⟨net', hf, k, a, b, hc, hk⟩ := (h.inRound hL hL').rounds hL hr hid
  obtain ⟨it, hit, hhome, hcareOf, -⟩ := hc.counted.binding
  obtain ⟨v, hv, hm, -, -⟩ := hc.counted.visitor
  have hnode := hc.counted.node
  refine ⟨net', hf, ⟨it, hit, hhome, hcareOf⟩, (VisitorList.has_iff _ _ _).2 ⟨v, hv, hm⟩, ?_⟩
  rw [UInt32.lt_iff_toNat_lt, UInt32.toNat_zero]
  rcases hk with ⟨-, rfl, -, -⟩ | ⟨-, hk, -, -⟩
  · omega
  · omega

end Timers

section Examples

open Definitions

def registeredNode : MobileIPNode :=
  { mobileNode with
    connection :=
      { isHome := false
        agentAddress := foreignAgentPrivateAddress
        careOfAddress := foreignAgentPublicAddress
        lifetime := 4
        remainingLifetime := 4 } }

def registeredAgent : MobileIPForeignAgent :=
  { foreignAgent with visitors := [⟨mobileNodeAddress, 5241, homeAgentPublicAddress, 4, 4⟩] }

def registeredNetwork : Network Bool where
  MN := registeredNode
  FA i := if i then otherAgent else registeredAgent
  HA := { homeAgent with mobilityBindings := [⟨mobileNodeAddress, foreignAgentPublicAddress, 4⟩] }

theorem registeredNode_reachable : registeredNode.Reachable := by
  have hrun : ∃ tr, Machine.Run MobileIPNode.step mobileNode tr registeredNode :=
    Machine.Run.exists_of_exec
      [.reregister (sendAt 7) foreignAgentPrivateAddress foreignAgentPublicAddress 4,
        .push (sendAt 8) ((UDPIPfy (buildRegistrationReplyPacket ⟨0, 0⟩ 4 0 mobileNodeAddress
          homeAgentPublicAddress 7) foreignAgentPrivateAddress 434 mobileNodeAddress 5241 1).packet
            RegistrationReplyPacket.bytes)] (by decide +kernel)
  obtain ⟨tr, hrun⟩ := hrun
  exact ⟨mobileNode, tr, rfl, rfl, rfl, hrun⟩

theorem registeredAgent_reachable : registeredAgent.Reachable := by
  have hrun : ∃ tr, Machine.Run MobileIPForeignAgent.step foreignAgent tr registeredAgent :=
    Machine.Run.exists_of_exec [requestArrives (requestFrom 4 7), replyArrives (replyFrom 4 7)]
      (by decide +kernel)
  obtain ⟨tr, hrun⟩ := hrun
  exact ⟨foreignAgent, tr, rfl, rfl, rfl, hrun⟩

theorem registeredNetwork_registered :
    registeredNetwork.Registered Definitions.routes false 4 where
  MN := registeredNode_reachable
  FA := registeredAgent_reachable
  quiet := rfl
  link := by decide
  toFA := by decide
  toHA := by decide
  homeAgent := rfl
  away := by decide
  agentAddress := rfl
  careOfAddress := rfl
  isAway := rfl
  idleMN := rfl
  idleFA := rfl
  lifetime := rfl
  connection := rfl
  binding := List.mem_singleton_self _
  visitor := ⟨5241, List.mem_singleton_self _⟩
  maxFA := by decide
  maxHA := by decide
  room := by decide

def timerAt (identification : UInt32) : TimerContext where
  send _ := sendAt identification
  clock _ := ⟨0, 0⟩
  handle _ := handleAt identification

/-- Three rounds in different orders; the node renews at the end of the second. -/
theorem no_lapse_three_rounds :
    ∃ net', registeredNetwork.fireAll Definitions.routes false
        [(.MN, timerAt 1), (.FA, timerAt 1), (.HA, timerAt 1), (.HA, timerAt 2), (.FA, timerAt 2),
          (.MN, timerAt 2), (.FA, timerAt 3), (.MN, timerAt 3), (.HA, timerAt 3)] = some net' ∧
      (∃ it ∈ net'.HA.mobilityBindings, it.homeAddress = mobileNodeAddress ∧
        it.careOfAddress = foreignAgentPublicAddress) ∧
      VisitorList.has mobileNodeAddress homeAgentPublicAddress (net'.FA false).visitors = true ∧
      0 < net'.MN.connection.remainingLifetime := by
  refine no_lapse registeredNetwork_registered (by decide) (by decide)
    [[(.MN, timerAt 1), (.FA, timerAt 1), (.HA, timerAt 1)],
      [(.HA, timerAt 2), (.FA, timerAt 2), (.MN, timerAt 2)],
      [(.FA, timerAt 3), (.MN, timerAt 3), (.HA, timerAt 3)]] ?_ ?_
  · decide
  · simp only [List.forall_mem_cons]
    simp [timerAt, sendAt]

end Examples

end Network

end MobileIP
