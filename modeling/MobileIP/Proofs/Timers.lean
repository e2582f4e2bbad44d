import MobileIP.Proofs.Agreement

/-! The three timers that a registration hangs on, and what a tick of an agent leaves of it. -/

namespace MobileIP

inductive Timer where
  | MN
  | FA
  | HA
deriving DecidableEq, Repr

/-- What a timer and the handling of the messages it causes find outside the elements. -/
structure TimerContext where
  send : ℕ → SendContext
  clock : ℕ → Clock
  handle : ℕ → NetContext

namespace Network

variable {ι : Type} [DecidableEq ι] {routes : Routes ι} {net net' : Network ι} {i : ι}

def timerEvent (i : ι) (ctx : TimerContext) : Timer → NetEvent ι
  | .MN => .tickMN ctx.send
  | .FA => .tickFA i ctx.clock
  | .HA => .tickHA

/-- A timer fires, and what follows from it is delivered; `none` if a party fails, or if a message
is still in flight after four of them. -/
def fire (routes : Routes ι) (i : ι) (net : Network ι) (t : Timer × TimerContext) :
    Option (Network ι) :=
  match net.step routes (timerEvent i t.2 t.1) with
  | .error _ => none
  | .ok (net, _) =>
    match settle routes t.2.handle 4 net with
    | .error _ => none
    | .ok (net, _) => if net.flights = [] then some net else none

def fireAll (routes : Routes ι) (i : ι) :
    Network ι → List (Timer × TimerContext) → Option (Network ι)
  | net, [] => some net
  | net, t :: ts =>
    match net.fire routes i t with
    | none => none
    | some net => net.fireAll routes i ts

theorem fireAll_append (net : Network ι) (ts ts' : List (Timer × TimerContext)) :
    net.fireAll routes i (ts ++ ts') =
      (net.fireAll routes i ts).bind fun net => net.fireAll routes i ts' := by
  induction ts generalizing net with
  | nil => rfl
  | cons t ts ih =>
    simp only [List.cons_append, fireAll]
    cases net.fire routes i t with
    | none => rfl
    | some net => exact ih net

/-- The state right after an exchange that has left the lifetime `L` with all three parties; the
foreign agent enters it as both lifetimes of the visitor (`exists_updateVisitors`). -/
structure Registered (routes : Routes ι) (net : Network ι) (i : ι) (L : UInt32) : Prop where
  MN : net.MN.Reachable
  FA : (net.FA i).Reachable
  quiet : net.flights = []
  link : routes.link (net.FA i).privateAddress = some (.foreign i)
  toFA : routes.backbone (net.FA i).careOfAddress = some (.foreign i)
  toHA : routes.backbone net.HA.publicAddress = some .home
  homeAgent : net.MN.homeAgentPublicAddress = net.HA.publicAddress
  away : (net.FA i).privateAddress ≠ net.MN.homeAgentPrivateAddress
  agentAddress : net.MN.connection.agentAddress = (net.FA i).privateAddress
  careOfAddress : net.MN.connection.careOfAddress = (net.FA i).careOfAddress
  isAway : net.MN.connection.isHome = false
  idleMN : net.MN.requests = []
  idleFA : (net.FA i).requests = []
  lifetime : net.MN.connection.lifetime = L
  connection : net.MN.connection.remainingLifetime = L
  binding : ⟨net.MN.homeAddress, (net.FA i).careOfAddress, L⟩ ∈ net.HA.mobilityBindings
  visitor : ∃ port, ⟨net.MN.homeAddress, port, net.HA.publicAddress, L, L⟩ ∈ (net.FA i).visitors
  maxFA : L.toNat ≤ (net.FA i).maxAcceptedLifetime.toNat
  maxHA : L.toNat ≤ net.HA.maxAcceptedLifetime.toNat
  room : 1 ≤ (net.FA i).maxPendingRegistrations.toNat

structure Renewing (routes : Routes ι) (i : ι) (L : UInt32) (home careOf agent : IPAddress)
    (mn : MobileIPNode) (fa : MobileIPForeignAgent) (ha : MobileIPHomeAgent) : Prop where
  link : routes.link fa.privateAddress = some (.foreign i)
  toFA : routes.backbone fa.careOfAddress = some (.foreign i)
  toHA : routes.backbone ha.publicAddress = some .home
  away : fa.privateAddress ≠ mn.homeAgentPrivateAddress
  portMN : mn.sourcePort.toNat ≤ 65535
  portFA : fa.sourcePort.toNat ≤ 65535
  home : mn.homeAddress = home
  careOf : fa.careOfAddress = careOf
  agent : ha.publicAddress = agent
  homeAgent : mn.homeAgentPublicAddress = ha.publicAddress
  agentAddress : mn.connection.agentAddress = fa.privateAddress
  careOfAddress : mn.connection.careOfAddress = fa.careOfAddress
  isAway : mn.connection.isHome = false
  idleMN : mn.requests = []
  idleFA : fa.requests = []
  lifetime : mn.connection.lifetime = L
  maxFA : L.toNat ≤ fa.maxAcceptedLifetime.toNat
  maxHA : L.toNat ≤ ha.maxAcceptedLifetime.toNat
  room : 1 ≤ fa.maxPendingRegistrations.toNat

/-- The node, the home agent and the foreign agent have counted down `k`, `a` and `b` ticks from the
lifetime `L`. -/
structure Counted (L : UInt32) (home careOf agent : IPAddress) (mn : MobileIPNode)
    (fa : MobileIPForeignAgent) (ha : MobileIPHomeAgent) (k a b : ℕ) : Prop where
  node : mn.connection.remainingLifetime.toNat + k = L.toNat
  binding : ∃ it ∈ ha.mobilityBindings, it.homeAddress = home ∧ it.careOfAddress = careOf ∧
    it.remainingLifetime.toNat + a = L.toNat
  visitor : ∃ v ∈ fa.visitors, VisitorList.Matches home agent v ∧ v.requestedLifetime = L ∧
    v.remainingLifetime.toNat + b = L.toNat

/-- The network between two timers, no message in flight. -/
structure Counting (routes : Routes ι) (i : ι) (L : UInt32) (home careOf agent : IPAddress)
    (k a b : ℕ) (net : Network ι) : Prop where
  quiet : net.flights = []
  renewing : Renewing routes i L home careOf agent net.MN (net.FA i) net.HA
  counted : Counted L home careOf agent net.MN (net.FA i) net.HA k a b

section Timers

open MobileIPNode (ticked)

variable {L : UInt32} {home careOf agent : IPAddress} {k a b : ℕ}

theorem min_of_toNat_le {x y : UInt32} (h : x.toNat ≤ y.toNat) : min x y = x := by
  rw [← UInt32.toNat_inj, UInt32.toNat_min]
  exact min_eq_left h

omit [DecidableEq ι] in
theorem Renewing.finite {mn : MobileIPNode} {fa : MobileIPForeignAgent} {ha : MobileIPHomeAgent}
    (h : Renewing routes i L home careOf agent mn fa ha) (hL : L.toNat < 65535) :
    mn.connection.lifetime ≠ 65535 := by
  intro heq
  rw [h.lifetime.symm.trans heq] at hL
  exact absurd hL (by decide)

theorem fire_quiet {t : Timer × TimerContext} {out : List Emission}
    (hs : net.step routes (timerEvent i t.2 t.1) = .ok (net', out)) (hq : net'.flights = []) :
    net.fire routes i t = some net' := by
  simp only [fire, hs, settle_quiet hq, if_pos hq]

omit [DecidableEq ι] in
theorem Counting.linked (h : Counting routes i L home careOf agent k a b net) :
    net.Linked routes i :=
  ⟨h.renewing.link, h.renewing.toFA, h.renewing.toHA, h.renewing.away, h.renewing.portMN,
    h.renewing.portFA⟩

theorem Counting.fire_HA {a' : ℕ} (h : Counting routes i L home careOf agent k a b net)
    (hb : ∃ it ∈ MobilityBindingList.decreaseLifetime net.HA.mobilityBindings,
      it.homeAddress = home ∧ it.careOfAddress = careOf ∧
        it.remainingLifetime.toNat + a' = L.toNat) (ctx : TimerContext) :
    ∃ net', net.fire routes i (.HA, ctx) = some net' ∧
      Counting routes i L home careOf agent k a' b net' := by
  refine ⟨{ net with HA := net.HA.runTimer }, fire_quiet rfl h.quiet, h.quiet, ?_, ?_⟩
  · exact { h.renewing with }
  · exact { h.counted with binding := hb }

theorem Counting.fire_FA {b' : ℕ} (h : Counting routes i L home careOf agent k a b net)
    (hv : ∃ v ∈ VisitorList.decreaseLifetime (net.FA i).visitors, VisitorList.Matches home agent v ∧
      v.requestedLifetime = L ∧ v.remainingLifetime.toNat + b' = L.toNat) (ctx : TimerContext) :
    ∃ net', net.fire routes i (.FA, ctx) = some net' ∧
      Counting routes i L home careOf agent k a b' net' := by
  have htick : (net.FA i).runTimer ctx.clock =
      ({ net.FA i with visitors := VisitorList.decreaseLifetime (net.FA i).visitors }, []) := by
    simp [MobileIPForeignAgent.runTimer, h.renewing.idleFA, RequestList.decreaseLifetime,
      RequestList.removeTimedOutRequests, MobileIPForeignAgent.sendRequestTimedOutReply]
  refine ⟨{ net with FA := Function.update net.FA i { net.FA i with
    visitors := VisitorList.decreaseLifetime (net.FA i).visitors } }, ?_, h.quiet, ?_, ?_⟩
  · have hs : net.step routes (timerEvent i ctx .FA) = .ok ({ net with
        FA := Function.update net.FA i { net.FA i with
          visitors := VisitorList.decreaseLifetime (net.FA i).visitors } }, []) := by
      simp only [timerEvent, step, htick, List.flatMap_nil, List.append_nil]
    exact fire_quiet hs h.quiet
  · simp only [Function.update_self]
    exact { h.renewing with }
  · simp only [Function.update_self]
    exact { h.counted with visitor := hv }

theorem binding_tick {l : MobilityBindingList} (hL : L.toNat < 65535) (ha : a + 1 < L.toNat)
    (h : ∃ it ∈ l, it.homeAddress = home ∧ it.careOfAddress = careOf ∧
      it.remainingLifetime.toNat + a = L.toNat) :
    ∃ it ∈ MobilityBindingList.decreaseLifetime l, it.homeAddress = home ∧
      it.careOfAddress = careOf ∧ it.remainingLifetime.toNat + (a + 1) = L.toNat := by
  obtain ⟨it, hit, hhome, hcareOf, hsum⟩ := h
  rw [MobilityBindingList.decreaseLifetime_eq]
  have hexp : MobilityBindingList.Expiring home careOf it := ⟨hhome, hcareOf, by omega, by omega⟩
  rcases hexp.countDown with ⟨hone, -⟩ | ⟨it', hcd, hexp', hsucc⟩
  · omega
  · exact ⟨it', List.mem_filterMap.2 ⟨it, hit, hcd⟩, hexp'.homeAddress, hexp'.careOfAddress,
      by omega⟩

theorem binding_forever {l : MobilityBindingList} (hL : L = 65535)
    (h : ∃ it ∈ l, it.homeAddress = home ∧ it.careOfAddress = careOf ∧
      it.remainingLifetime.toNat + 0 = L.toNat) :
    ∃ it ∈ MobilityBindingList.decreaseLifetime l, it.homeAddress = home ∧
      it.careOfAddress = careOf ∧ it.remainingLifetime.toNat + 0 = L.toNat := by
  obtain ⟨it, hit, hhome, hcareOf, hsum⟩ := h
  have hinf : it.remainingLifetime = 65535 := hL ▸ UInt32.toNat_inj.1 hsum
  rw [MobilityBindingList.decreaseLifetime_eq]
  exact ⟨it, List.mem_filterMap.2 ⟨it, hit, if_pos hinf⟩, hhome, hcareOf, hsum⟩

theorem visitor_tick {l : VisitorList} (hL : L.toNat < 65535) (hb : b + 1 < L.toNat)
    (h : ∃ v ∈ l, VisitorList.Matches home agent v ∧ v.requestedLifetime = L ∧
      v.remainingLifetime.toNat + b = L.toNat) :
    ∃ v ∈ VisitorList.decreaseLifetime l, VisitorList.Matches home agent v ∧
      v.requestedLifetime = L ∧ v.remainingLifetime.toNat + (b + 1) = L.toNat := by
  obtain ⟨v, hv, hm, hreq, hsum⟩ := h
  rw [VisitorList.decreaseLifetime_eq]
  have hinf : v.requestedLifetime ≠ 65535 := by
    intro heq
    rw [← hreq, heq] at hL
    exact absurd hL (by decide)
  rcases pred_cases (x := v.remainingLifetime) (by omega) with ⟨-, hone⟩ | ⟨hne, -, hsucc⟩
  · omega
  · refine ⟨{ v with remainingLifetime := v.remainingLifetime - 1 },
      List.mem_filterMap.2 ⟨v, hv, ?_⟩, hm, hreq, by dsimp only; omega⟩
    rw [VisitorList.countDown, if_neg hinf, if_pos hne]

theorem visitor_forever {l : VisitorList} (hL : L = 65535)
    (h : ∃ v ∈ l, VisitorList.Matches home agent v ∧ v.requestedLifetime = L ∧
      v.remainingLifetime.toNat + b = L.toNat) :
    ∃ v ∈ VisitorList.decreaseLifetime l, VisitorList.Matches home agent v ∧
      v.requestedLifetime = L ∧ v.remainingLifetime.toNat + b = L.toNat := by
  obtain ⟨v, hv, hm, hreq, hsum⟩ := h
  rw [VisitorList.decreaseLifetime_eq]
  exact ⟨v, List.mem_filterMap.2 ⟨v, hv, if_pos (hreq.trans hL)⟩, hm, hreq, hsum⟩

end Timers

end Network

end MobileIP
