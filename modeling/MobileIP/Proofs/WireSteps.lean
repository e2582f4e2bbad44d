import MobileIP.Lib.Simulation
import MobileIP.Proofs.Decodes

/-! A step of the routers is matched by the network. A frame that carries a registration message is
handled as the message, or it has no effect; then the message counts as one that is still in flight.
-/

namespace MobileIP

open Channel Machine

variable {ι : Type}

namespace Wires

variable {A : IPAddress → Prop} {home : IPAddress} {routes : Routes ι} {w w' : Wires ι}
  {net : Network ι}

variable [DecidableEq ι]

/-- What the handling of a message finds outside the elements, where its frame arrives. -/
def netContext (ctx : WireContext) : NetContext where
  clock := ctx.clock
  ttl := ctx.ttl
  send := ctx.host.send

abbrev Simulates (routes : Routes ι) (home : IPAddress) (A : IPAddress → Prop) (w : Wires ι)
    (net : Network ι) : Prop :=
  Matches (Network.step routes) (Decodes home A) w net

variable {out : List Handoff}

theorem receive_other (h : Decodes home A w net) (hzero : A .zero) {ctx : WireContext}
    {x : Place ι × List UInt8} (hx : Idles w.ether A x)
    (hs : w.receive routes ctx x.2 x.1 = .ok (w', out)) : Simulates routes home A w' net := by
  obtain ⟨place, bytes⟩ := x
  obtain ⟨p, hother, shost, dhost, hd, hbytes⟩ := hx
  dsimp only at hother hd hbytes hs
  subst hbytes
  cases hother with
  | @advertisement a destination hA =>
    obtain ⟨host, out', heq, hcases⟩ := w.MN.input_advertisement shost ctx.host a destination hd
    simp only [receive, heq] at hs
    cases hs
    rcases hcases with ⟨hMN, rfl⟩ | ⟨address, careOfAddress, lifetime, haddress, hreg⟩
    · refine .stutter ?_
      have hnode := h.node routes (MobileIPNode.asks_nil h.sound.MN) (hMN.trans h.MN)
      simpa using hnode
    · rw [h.MN] at hreg
      have hc : A careOfAddress := by
        rcases haddress with ⟨-, rfl⟩ | ⟨-, rfl⟩
        · exact hA
        · exact hzero
      have hasks := MobileIPNode.reregister_asks h.sound.MN ctx.host.send address hc lifetime
      rw [hreg] at hasks
      have hstep : net.step routes (.reregister ctx.host.send address careOfAddress lifetime) =
          .ok ({ net with
            MN := host.MN
            flights := net.flights ++ out'.flatMap routes.fromMN }, out') := by
        simp only [Network.step, Network.reregister, hreg]
      exact .single hstep (h.node routes hasks rfl)
  | @solicitation a linkAddress destination =>
    have hwhole := sendSolicitation_whole linkAddress destination
    have htype := sendSolicitation_type linkAddress destination
    cases a with
    | home =>
      rcases w.HA.input_solicitation shost ctx.clock hwhole htype hd with
        ⟨out', heq, hquiet⟩ | ⟨destination', heq⟩
      · simp only [receive, heq, fromAgent_quiet hquiet, List.append_nil] at hs
        cases hs
        exact .stutter h
      · simp only [receive, heq, List.flatMap_singleton] at hs
        cases hs
        exact .stutter (h.homeAdvertises routes destination')
    | foreign i =>
      rcases (w.FA i).input_solicitation shost ctx.clock ctx.ttl hwhole htype hd with
        ⟨out', heq, hquiet⟩ | ⟨destination', heq⟩
      · simp only [receive, heq, fromAgent_quiet hquiet, List.append_nil,
          Function.update_eq_self] at hs
        cases hs
        exact .stutter h
      · simp only [receive, heq, List.flatMap_singleton] at hs
        cases hs
        exact .stutter (h.foreignAdvertises routes i destination')
  | @request i d hplain htype =>
    obtain ⟨out', heq, hquiet⟩ := (w.FA i).input_discarded shost ctx.clock ctx.ttl hplain htype hd
    simp only [receive, heq, fromAgent_quiet hquiet, List.append_nil, Function.update_eq_self] at hs
    cases hs
    exact .stutter h

theorem receive_flight (h : Decodes home A w net) {ctx : WireContext} {x : Place ι × List UInt8}
    {f : Flight ι} (hf : RegistrationMessage.Sound home A f.message) (hx : Carries w.ether x f)
    (hs : w.receive routes ctx x.2 x.1 = .ok (w', out)) :
    Decodes home A w' net ∨ ∃ net' out', net.receive routes (netContext ctx) f = .ok (net', out') ∧
      Decodes home A w' net' := by
  obtain ⟨place, bytes⟩ := x
  obtain ⟨hplace, ⟨shost, dhost, hd, hbytes⟩, hplain⟩ := hx
  dsimp only at hplace hd hbytes hs
  subst hplace hbytes
  cases f with
  | requestToHA link d =>
    rcases w.HA.input_request shost ctx.clock link hf.1
      (fun hlink => hplain d (by rw [hlink])) hd with ⟨out', heq, hquiet⟩ | heq
    · simp only [Flight.place, receive, Flight.message, RegistrationMessage.packet, heq,
        fromAgent_quiet hquiet, List.append_nil] at hs
      cases hs
      exact Or.inl h
    · simp only [Flight.place, receive, Flight.message, RegistrationMessage.packet, heq] at hs
      cases hs
      refine Or.inr ⟨_, _, rfl, ?_⟩
      have hbinds := MobileIPHomeAgent.processRegistration_binds h.sound.HA d.request hf.2.1 hf.2.2
        ctx.clock link
      rw [h.HA]
      exact h.homeAgent routes hbinds.1 hbinds.2
  | requestToFA i d =>
    rcases (w.FA i).input_request shost ctx.clock ctx.ttl (d := d) hd with ⟨out', heq, hquiet⟩ | heq
    · simp only [Flight.place, receive, Flight.message, RegistrationMessage.packet, heq,
        fromAgent_quiet hquiet, List.append_nil, Function.update_eq_self] at hs
      cases hs
      exact Or.inl h
    · simp only [Flight.place, receive, Flight.message, RegistrationMessage.packet, heq] at hs
      cases hs
      refine Or.inr ⟨_, _, rfl, ?_⟩
      rw [h.FA i]
      exact h.foreign routes (MobileIPForeignAgent.relayRequest_forwards (h.sound.FA i) d.request
        hf.2.1 hf.2.2 ctx.clock ctx.ttl)
  | replyToFA i d =>
    rcases (w.FA i).input_reply shost ctx.clock ctx.ttl (d := d) hd with ⟨out', heq, hquiet⟩ | heq
    · simp only [Flight.place, receive, Flight.message, RegistrationMessage.packet, heq,
        fromAgent_quiet hquiet, List.append_nil, Function.update_eq_self] at hs
      cases hs
      exact Or.inl h
    · simp only [Flight.place, receive, Flight.message, RegistrationMessage.packet, heq] at hs
      cases hs
      refine Or.inr ⟨_, _, rfl, ?_⟩
      rw [h.FA i]
      exact h.foreign routes (MobileIPForeignAgent.relayReply_forwards (h.sound.FA i) d.reply hf.2
        ctx.clock)
  | replyToMN d =>
    rcases w.MN.input_reply shost ctx.host hf.1 hd with ⟨e, heq⟩ | heq | ⟨MN, out', hreply, heq⟩
    · simp only [Flight.place, receive, Flight.message, RegistrationMessage.packet, heq] at hs
      cases hs
    · simp only [Flight.place, receive, Flight.message, RegistrationMessage.packet, heq,
        List.flatMap_nil, List.append_nil] at hs
      cases hs
      exact Or.inl h
    · simp only [Flight.place, receive, Flight.message, RegistrationMessage.packet, heq] at hs
      cases hs
      rw [h.MN] at hreply
      have hreceive : net.receive routes (netContext ctx) (.replyToMN d) = .ok ({ net with
          MN := MN
          flights := net.flights ++ out'.flatMap routes.fromMN }, out') := by
        simp only [Network.receive, netContext, hreply]
      refine Or.inr ⟨_, _, hreceive, ?_⟩
      exact h.node routes (MobileIPNode.receiveReply_asks h.sound.MN hreply) rfl

/-- Each step of the wires is matched by at most one of the network. -/
theorem step_simulates (hzero : A .zero) {e : WireEvent ι} (h : Decodes home A w net)
    (hs : w.step routes e = .ok (w', out)) : Simulates routes home A w' net := by
  cases e with
  | deliver ctx k =>
    simp only [Wires.step, deliver] at hs
    cases hk : w.frames[k]? with
    | none =>
      rw [hk] at hs
      cases hs
      exact .stutter h
    | some x =>
      rw [hk] at hs
      rcases h.loads.takeOut hk with ⟨hidle, -⟩ | ⟨f, k', hcarries, hf, hloads⟩
      · exact receive_other (h.lose k) hzero hidle hs
      · have hsound := h.sound.flights f (List.mem_of_getElem? hf)
        rcases receive_flight (h.takeOut hloads) hsound hcarries hs with
          hlost | ⟨net', out', hreceive, hdecodes⟩
        · -- the message stays in flight, without its frame
          refine .stutter ⟨hlost.MN, hlost.FA, hlost.HA, hlost.plain, hlost.homeOffer,
            hlost.foreignOffer, h.sound, hlost.loads.of_eraseIdx⟩
        · have hstep : net.step routes (.deliver (netContext ctx) k') = .ok (net', out') := by
            simp only [Network.step, Network.deliver, hf]
            exact hreceive
          exact .single hstep hdecodes
  | lose k =>
    cases hs
    exact .stutter (h.lose k)
  | tickMN ctx =>
    cases hs
    rw [h.MN]
    have hstep : net.step routes (.tickMN ctx) = .ok ({ net with
        MN := (net.MN.runTimer ctx).1
        flights := net.flights ++ (net.MN.runTimer ctx).2.flatMap routes.fromMN },
        (net.MN.runTimer ctx).2) := rfl
    exact .single hstep (h.node routes (MobileIPNode.runTimer_asks h.sound.MN ctx) rfl)
  | tickFA i clock =>
    cases hs
    rw [h.FA i]
    have hstep : net.step routes (.tickFA i clock) = .ok ({ net with
        FA := Function.update net.FA i ((net.FA i).runTimer clock).1
        flights := net.flights ++ ((net.FA i).runTimer clock).2.flatMap routes.fromFA },
        ((net.FA i).runTimer clock).2) := rfl
    exact .single hstep
      (h.foreign routes (MobileIPForeignAgent.runTimer_forwards (h.sound.FA i) clock))
  | tickHA =>
    cases hs
    rw [h.HA]
    have hstep : net.step routes .tickHA = .ok ({ net with HA := net.HA.runTimer }, []) := rfl
    refine .single hstep ?_
    have hhome := h.homeAgent routes (r := (net.HA.runTimer, []))
      (MobileIPHomeAgent.runTimer_binds h.sound.HA) (by simp)
    simpa using hhome
  | advertise a =>
    cases a with
    | home =>
      simp only [Wires.step, advertise, MobileIPAdvertiser.runTimer, List.map_singleton,
        List.flatMap_singleton] at hs
      cases hs
      exact .stutter (h.homeAdvertises routes .broadcast)
    | foreign i =>
      simp only [Wires.step, advertise, MobileIPAdvertiser.runTimer, List.map_singleton,
        List.flatMap_singleton] at hs
      cases hs
      exact .stutter (h.foreignAdvertises routes i .broadcast)
  | solicit agents =>
    cases hs
    refine .stutter ⟨h.MN, h.FA, h.HA, h.plain, h.homeOffer, h.foreignOffer, h.sound, ?_⟩
    rw [← List.append_nil net.flights]
    refine h.loads.append (Loaded.of_idle fun x hx => ?_)
    obtain ⟨a, -, rfl⟩ := List.mem_map.1 hx
    exact ⟨_, .solicitation, holds_send _ _ _ _⟩
  | lifetimeExpired =>
    cases hs
    exact .stutter ⟨h.MN, h.FA, h.HA, h.plain, h.homeOffer, h.foreignOffer, h.sound, h.loads⟩
  | enableFastMoving value =>
    cases hs
    exact .stutter ⟨h.MN, h.FA, h.HA, h.plain, h.homeOffer, h.foreignOffer, h.sound, h.loads⟩

end Wires

end MobileIP
