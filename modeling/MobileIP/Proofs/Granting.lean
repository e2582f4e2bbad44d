import MobileIP.Proofs.Joining

/-! The messages of an exchange with a foreign agent, from the last of them back to the first. -/

namespace MobileIP

namespace Network

variable {ι : Type} {routes : Routes ι} {net net' net'' : Network ι} {i : ι}

variable [DecidableEq ι]

theorem settle_quiet (h : net.flights = []) (ctx : ℕ → NetContext) (fuel : ℕ) :
    settle routes ctx fuel net = .ok (net, []) := by
  cases fuel with
  | zero => rfl
  | succ fuel => rw [settle, if_pos h]

theorem settle_cons {ctx : ℕ → NetContext} {f : Flight ι} {out out' : List Emission} {fuel : ℕ}
    (hf : net.flights = [f])
    (hr : { net with flights := [] }.receive routes (ctx 0) f = .ok (net', out))
    (hs : settle routes (fun k => ctx (k + 1)) fuel net' = .ok (net'', out')) :
    settle routes ctx (fuel + 1) net = .ok (net'', out ++ out') := by
  have hd : net.deliver routes (ctx 0) 0 = .ok (net', out) := by
    simp only [deliver, hf, List.getElem?_cons_zero, List.eraseIdx_zero, List.tail_cons]
    exact hr
  rw [settle, if_neg (by simp [hf]), hd]
  simp only [hs]

theorem receive_relays (routes : Routes ι) (net : Network ι) (ctx : NetContext)
    {d : Datagram RegistrationRequestPacket}
    (hq : net.flights = []) (hpass : (net.FA i).Passes d.request)
    (hl : d.request.lifetime.toNat ≤ (net.FA i).maxAcceptedLifetime.toNat)
    (hroute : routes.backbone d.request.homeAgent = some .home) :
    net.receive routes ctx (.requestToFA i d) =
      .ok ({ net with
        FA := Function.update net.FA i { net.FA i with
          requests := (net.FA i).requests ++ [(net.FA i).pendingItem ctx.ttl d.request] }
        flights := [.requestToHA 1 ((net.FA i).relayedDatagram ctx.clock d.request)] },
        [⟨1, .request ((net.FA i).relayedDatagram ctx.clock d.request)⟩]) := by
  have hdest : ((net.FA i).relayedDatagram ctx.clock d.request).destination =
      d.request.homeAgent := rfl
  simp only [receive, MobileIPForeignAgent.relayRequest_of_passes hpass hl, hq, List.nil_append,
    List.flatMap_cons, List.flatMap_nil, List.append_nil, Routes.fromFA, hdest, hroute, if_true]

theorem receive_refuses (routes : Routes ι) (net : Network ι) (ctx : NetContext)
    {d : Datagram RegistrationRequestPacket}
    (hq : net.flights = []) (hpass : (net.FA i).Passes d.request)
    (hl : (net.FA i).maxAcceptedLifetime.toNat < d.request.lifetime.toNat) :
    net.receive routes ctx (.requestToFA i d) =
      .ok ({ net with flights := [.replyToMN ((net.FA i).refusal ctx.clock d.request)] },
        [⟨0, .reply ((net.FA i).refusal ctx.clock d.request)⟩]) := by
  simp only [receive, MobileIPForeignAgent.relayRequest_of_too_long hpass hl, hq, List.nil_append,
    Function.update_eq_self, MobileIPForeignAgent.sendReply_refusal, List.flatMap_cons,
    List.flatMap_nil, List.append_nil, Routes.fromFA, if_true]

theorem receive_binds (routes : Routes ι) (net : Network ι) (ctx : NetContext)
    {d : Datagram RegistrationRequestPacket}
    (hq : net.flights = []) (hadm : net.HA.Admits d.request)
    (hg : net.HA.lifetimeGranted d.request ≠ 0)
    (hroute : routes.backbone d.request.IP.source = some (.foreign i)) :
    net.receive routes ctx (.requestToHA 1 d) =
      .ok ({ net with
        HA := { net.HA with mobilityBindings := net.HA.bindingsAfter d.request }
        flights := [.replyToFA i (net.HA.acceptance ctx.clock d.request)] },
        [⟨1, .reply (net.HA.acceptance ctx.clock d.request)⟩]) := by
  have hdest : (net.HA.acceptance ctx.clock d.request).destination = d.request.IP.source := rfl
  simp only [receive, MobileIPHomeAgent.processRegistration_of_admits hadm,
    MobileIPHomeAgent.sendReply_public hg, hq, List.nil_append, List.flatMap_cons, List.flatMap_nil,
    List.append_nil, Routes.fromHA, hdest, hroute, one_ne_zero, if_false]

theorem receive_confirms (routes : Routes ι) (net : Network ι) (ctx : NetContext)
    {d : Datagram RegistrationReplyPacket}
    {request : RequestListItem} {rest : RequestList} (hq : net.flights = [])
    (hr : RequestList.remove d.reply.identification (net.FA i).requests = .ok (request, rest))
    (hc : (net.FA i).checkReplyValidity d.reply request = true) :
    net.receive routes ctx (.replyToFA i d) =
      .ok ({ net with
        FA := Function.update net.FA i { net.FA i with
          requests := rest
          visitors := (net.FA i).updateVisitors d.reply request }
        flights :=
          [.replyToMN ((net.FA i).passedOn ctx.clock d.reply request.rr.UDP.sourcePort)] },
        [⟨0, .reply ((net.FA i).passedOn ctx.clock d.reply request.rr.UDP.sourcePort)⟩]) := by
  simp only [receive, MobileIPForeignAgent.relayReply_of_pending hr hc, hq, List.nil_append,
    MobileIPForeignAgent.sendReplyFromHA_eq, List.flatMap_cons, List.flatMap_nil, List.append_nil,
    Routes.fromFA, if_true]

theorem receive_accepts (routes : Routes ι) (net : Network ι) (ctx : NetContext)
    {d : Datagram RegistrationReplyPacket}
    {mn : MobileIPNode} (hr : net.MN.receiveReply ctx.send d.reply = .ok (mn, [])) :
    net.receive routes ctx (.replyToMN d) = .ok ({ net with MN := mn }, []) := by
  simp only [receive, hr, List.flatMap_nil, List.append_nil]

theorem receive_repeats (routes : Routes ι) (net : Network ι) (ctx : NetContext)
    {d : Datagram RegistrationReplyPacket} {d' : Datagram RegistrationRequestPacket}
    {mn : MobileIPNode} (hq : net.flights = [])
    (hr : net.MN.receiveReply ctx.send d.reply = .ok (mn, [⟨0, .request d'⟩]))
    (hroute : routes.link d'.destination = some (.foreign i)) :
    net.receive routes ctx (.replyToMN d) =
      .ok ({ net with MN := mn, flights := [.requestToFA i d'] }, [⟨0, .request d'⟩]) := by
  simp only [receive, hr, hq, List.nil_append, List.flatMap_cons, List.flatMap_nil,
    List.append_nil, Routes.fromMN, hroute]

theorem lifetimeGranted_ne_zero (ha : MobileIPHomeAgent) {registration : RegistrationRequest}
    (hl : registration.lifetime ≠ 0) (hH : ha.maxAcceptedLifetime ≠ 0) :
    ha.lifetimeGranted registration ≠ 0 := by
  rw [← toNat_ne_zero] at hl hH ⊢
  rw [MobileIPHomeAgent.lifetimeGranted, UInt32.toNat_min]
  omega

def grant (m : UInt32) (home homeAgent : IPAddress) (UDP : UDPHeader) (IP : IPHeader)
    (identification : UInt32) : RegistrationReply :=
  { code := 0, lifetime := m, home, homeAgent, UDP, IP, identification }

structure Waiting (mn : MobileIPNode) (base : RequestList) (item : RequestListItem) : Prop where
  requests : mn.requests = base ++ [item]
  fresh : ∀ x ∈ base, x.identification ≠ item.identification
  bound : item.requestedLifetime.toNat ≤ 65535
  port : mn.sourcePort.toNat ≤ 65535

def granted (mn : MobileIPNode) (base : RequestList) (m : UInt32) : MobileIPNode :=
  { mn with
    requests := base
    connection := { mn.connection with remainingLifetime := m, isHome := false } }

theorem settle_reply_MN (net : Network ι) {ctx : ℕ → NetContext}
    {d : Datagram RegistrationReplyPacket}
    {base : RequestList} {item : RequestListItem} {m : UInt32} {home homeAgent : IPAddress}
    {ip : IPHeader} (hw : Waiting net.MN base item) (hf : net.flights = [.replyToMN d])
    (hd : d.reply = grant m home homeAgent ⟨434, net.MN.sourcePort⟩ ip item.identification)
    (haway : ip.source ≠ net.MN.homeAgentPrivateAddress)
    (hm : m.toNat ≤ item.requestedLifetime.toNat) (fuel : ℕ) :
    settle routes ctx (fuel + 1) net =
      .ok ({ net with MN := granted net.MN base m, flights := [] }, []) := by
  have hid : d.reply.identification = item.identification := by rw [hd]; rfl
  have hport : d.reply.UDP.destinationPort = net.MN.sourcePort := by rw [hd]; rfl
  have hcode : d.reply.code = 0 := by rw [hd]; rfl
  have hr := MobileIPNode.receiveReply_accepted hw.requests hw.fresh hid hport hcode (ctx 0).send
  have haccept : net.MN.accept d.reply item =
      { net.MN.connection with remainingLifetime := m, isHome := false } := by
    simp only [MobileIPNode.accept, hd, grant, MobileIPNode.sub_abs_sub hm hw.bound,
      decide_eq_false haway]
  rw [haccept] at hr
  exact settle_cons hf (receive_accepts routes { net with flights := [] } (ctx 0) hr)
    (settle_quiet rfl _ _)

theorem settle_reply_FA (net : Network ι) {ctx : ℕ → NetContext}
    {d : Datagram RegistrationReplyPacket}
    {base : RequestList} {item : RequestListItem} {m : UInt32} {home homeAgent : IPAddress}
    {ip : IPHeader} {pending : RequestListItem} {rest : RequestList}
    (hw : Waiting net.MN base item) (hf : net.flights = [.replyToFA i d])
    (hd : d.reply = grant m home homeAgent ⟨434, (net.FA i).sourcePort⟩ ip item.identification)
    (hp : (net.FA i).requests = rest ++ [pending])
    (hid : pending.identification = item.identification)
    (hfresh : ∀ x ∈ rest, x.identification ≠ item.identification) (hhome : pending.rr.home = home)
    (hport : pending.rr.UDP.sourcePort = net.MN.sourcePort)
    (haway : (net.FA i).privateAddress ≠ net.MN.homeAgentPrivateAddress)
    (hm : m.toNat ≤ item.requestedLifetime.toNat) (fuel : ℕ) :
    ∃ out, settle routes ctx (fuel + 2) net =
        .ok ({ net with
          MN := granted net.MN base m
          FA := Function.update net.FA i { net.FA i with
            requests := rest
            visitors := (net.FA i).updateVisitors d.reply pending }
          flights := [] }, out) ∧ repliesToMN out = [0] := by
  have hremove : RequestList.remove d.reply.identification (net.FA i).requests =
      .ok (pending, rest) := by
    rw [hd, hp]
    exact RequestList.remove_append_last hid hfresh
  have hcheck : (net.FA i).checkReplyValidity d.reply pending = true := by
    simp [MobileIPForeignAgent.checkReplyValidity, hd, grant, hhome]
  have hr := receive_confirms routes { net with flights := [] } (ctx 0) rfl hremove hcheck
  have hreply : ((net.FA i).passedOn (ctx 0).clock d.reply pending.rr.UDP.sourcePort).reply =
      grant m home homeAgent ⟨434, net.MN.sourcePort⟩ ⟨(net.FA i).privateAddress,
        if home = .zero then .broadcast else home⟩ item.identification := by
    simp only [MobileIPForeignAgent.passedOn, hd, grant, hport]
    exact reply_UDPIPfy (hm.trans hw.bound) (by decide) hw.port _ _ _ _ _ _ _ _
  let net₁ : Network ι := { net with
    FA := Function.update net.FA i { net.FA i with
      requests := rest
      visitors := (net.FA i).updateVisitors d.reply pending }
    flights := [.replyToMN ((net.FA i).passedOn (ctx 0).clock d.reply pending.rr.UDP.sourcePort)] }
  refine ⟨_, settle_cons hf hr (settle_reply_MN net₁ hw rfl hreply haway hm fuel), ?_⟩
  simp [repliesToMN, Emission.code, MobileIPForeignAgent.passedOn, UDPIPfy,
    buildRegistrationReplyPacket, hd, grant]

theorem settle_request_HA (net : Network ι) {ctx : ℕ → NetContext}
    {d : Datagram RegistrationRequestPacket}
    {base : RequestList} {item : RequestListItem} {home : IPAddress} {pending : RequestListItem}
    {rest : RequestList} (hj : net.Linked routes i) (hw : Waiting net.MN base item)
    (hf : net.flights = [.requestToHA 1 d])
    (hd : d.request = plainRequest item.requestedLifetime home net.HA.publicAddress
      (net.FA i).careOfAddress ⟨(net.FA i).sourcePort, 434⟩
      ⟨(net.FA i).careOfAddress, net.HA.publicAddress⟩ item.identification)
    (hp : (net.FA i).requests = rest ++ [pending])
    (hid : pending.identification = item.identification)
    (hfresh : ∀ x ∈ rest, x.identification ≠ item.identification) (hhome : pending.rr.home = home)
    (hport : pending.rr.UDP.sourcePort = net.MN.sourcePort)
    (hl : item.requestedLifetime ≠ 0) (hH : net.HA.maxAcceptedLifetime ≠ 0) (fuel : ℕ) :
    ∃ udp ip out, settle routes ctx (fuel + 3) net =
        .ok ({ net with
          MN := granted net.MN base (min item.requestedLifetime net.HA.maxAcceptedLifetime)
          FA := Function.update net.FA i { net.FA i with
            requests := rest
            visitors := (net.FA i).updateVisitors
              (grant (min item.requestedLifetime net.HA.maxAcceptedLifetime) home
                net.HA.publicAddress udp ip item.identification) pending }
          HA := { net.HA with mobilityBindings := net.HA.bindingsAfter d.request }
          flights := [] }, out) ∧ repliesToMN out = [0] := by
  have hadm : net.HA.Admits d.request := by
    rw [hd]
    exact ⟨rfl, ⟨rfl, rfl⟩, ⟨rfl, rfl, rfl, rfl⟩, rfl, Or.inr rfl⟩
  have hl' : d.request.lifetime ≠ 0 := by rw [hd]; exact hl
  have hgrant : net.HA.lifetimeGranted d.request =
      min item.requestedLifetime net.HA.maxAcceptedLifetime := by rw [hd]; rfl
  have hm : (min item.requestedLifetime net.HA.maxAcceptedLifetime).toNat ≤
      item.requestedLifetime.toNat := by
    rw [UInt32.toNat_min]
    exact min_le_left _ _
  have hr := receive_binds routes { net with flights := [] } (ctx 0) rfl hadm
    (lifetimeGranted_ne_zero net.HA hl' hH) (by rw [hd]; exact hj.toFA)
  have hreply : (net.HA.acceptance (ctx 0).clock d.request).reply =
      grant (min item.requestedLifetime net.HA.maxAcceptedLifetime) home net.HA.publicAddress
        ⟨434, (net.FA i).sourcePort⟩ ⟨net.HA.publicAddress, (net.FA i).careOfAddress⟩
        item.identification := by
    rw [MobileIPHomeAgent.acceptance_reply (by rw [hgrant]; exact hm.trans hw.bound)
      (by rw [hd]; exact hj.portFA), hgrant, hd]
    rfl
  let net₁ : Network ι := { net with
    HA := { net.HA with mobilityBindings := net.HA.bindingsAfter d.request }
    flights := [.replyToFA i (net.HA.acceptance (ctx 0).clock d.request)] }
  obtain ⟨out, hs, hout⟩ := settle_reply_FA net₁ hw rfl hreply hp hid hfresh hhome hport hj.away hm
    fuel
  rw [hreply] at hs
  exact ⟨_, _, _, settle_cons hf hr hs, hout⟩

end Network

end MobileIP
