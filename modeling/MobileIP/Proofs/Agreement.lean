import MobileIP.Proofs.Granting

/-! A registration through a foreign agent, from the call of `reregister` to the last reply: the
three parties end with the same lifetime. -/

namespace MobileIP

namespace Network

variable {ι : Type} {routes : Routes ι} {net net' : Network ι} {i : ι}

variable [DecidableEq ι]

def exchanged (net : Network ι) (i : ι) (base : RequestList) (m : UInt32)
    (registration : RegistrationRequest) (reply : RegistrationReply) (pending : RequestListItem) :
    Network ι :=
  { net with
    MN := granted net.MN base m
    FA := Function.update net.FA i { net.FA i with
      visitors := (net.FA i).updateVisitors reply pending }
    HA := { net.HA with mobilityBindings := net.HA.bindingsAfter registration }
    flights := [] }

theorem settle_granted {d : Datagram RegistrationRequestPacket}
    {base : RequestList} {item : RequestListItem} (ha : net.Asked i d base item)
    (hj : net.Linked routes i)
    (hroom : RequestList.size (net.FA i).requests < (net.FA i).maxPendingRegistrations)
    (hH : net.HA.maxAcceptedLifetime ≠ 0)
    (hF : item.requestedLifetime.toNat ≤ (net.FA i).maxAcceptedLifetime.toNat)
    (ctx : ℕ → NetContext) (fuel : ℕ) :
    ∃ udp udp' ip ip' pending out, settle routes ctx (fuel + 4) net =
      .ok (net.exchanged i base (min item.requestedLifetime net.HA.maxAcceptedLifetime)
        (plainRequest item.requestedLifetime net.MN.homeAddress net.HA.publicAddress
          (net.FA i).careOfAddress udp ip item.identification)
        (grant (min item.requestedLifetime net.HA.maxAcceptedLifetime) net.MN.homeAddress
          net.HA.publicAddress udp' ip' item.identification) pending, out) ∧
      repliesToMN out = [0] := by
  have hlife : d.request.lifetime = item.requestedLifetime := by rw [ha.request]; rfl
  have hagent : d.request.homeAgent = net.HA.publicAddress := by rw [ha.request]; rfl
  have hr := receive_relays routes { net with flights := [] } (ctx 0) rfl (ha.passes hroom)
    (by rw [hlife]; exact hF) (by rw [hagent]; exact hj.toHA)
  have hrelayed : ((net.FA i).relayedDatagram (ctx 0).clock d.request).request =
      plainRequest item.requestedLifetime net.MN.homeAddress net.HA.publicAddress
        (net.FA i).careOfAddress ⟨(net.FA i).sourcePort, 434⟩
        ⟨(net.FA i).careOfAddress, net.HA.publicAddress⟩ item.identification := by
    rw [MobileIPForeignAgent.relayedDatagram_request (by rw [ha.request]; exact ha.bound) hj.portFA
      (by rw [ha.request]; exact ha.ne_zero), ha.request]
    rfl
  let fa : MobileIPForeignAgent := { net.FA i with
    requests := (net.FA i).requests ++ [(net.FA i).pendingItem (ctx 0).ttl d.request] }
  let net₁ : Network ι := { net with
    FA := Function.update net.FA i fa
    flights := [.requestToHA 1 ((net.FA i).relayedDatagram (ctx 0).clock d.request)] }
  have hfa : net₁.FA i = fa := Function.update_self ..
  have hj₁ : net₁.Linked routes i := by
    refine ⟨?_, ?_, hj.toHA, ?_, hj.portMN, ?_⟩
    · rw [hfa]; exact hj.link
    · rw [hfa]; exact hj.toFA
    · rw [hfa]; exact hj.away
    · rw [hfa]; exact hj.portFA
  have hw : Waiting net₁.MN base item := ⟨ha.requests, ha.node, ha.bound, hj.portMN⟩
  obtain ⟨udp', ip', out, hs, hout⟩ := settle_request_HA net₁ hj₁ hw rfl
    (by rw [hfa]; exact hrelayed) (by rw [hfa]) (by rw [ha.request]; rfl) ha.agent
    (by rw [ha.request]; rfl) (by rw [ha.request]; rfl) ha.lifetime hH fuel
  rw [hrelayed, hfa] at hs
  have hend := settle_cons ha.flight hr hs
  simp only [net₁, Function.update_idem] at hend
  exact ⟨_, udp', _, ip', _, _, hend, hout⟩

theorem settle_agreed {d : Datagram RegistrationRequestPacket}
    {base : RequestList} {item : RequestListItem} (ha : net.Asked i d base item)
    (hj : net.Joined routes i)
    (hroom : RequestList.size (net.FA i).requests < (net.FA i).maxPendingRegistrations)
    (hH : net.HA.maxAcceptedLifetime ≠ 0)
    (hF : item.requestedLifetime.toNat ≤ (net.FA i).maxAcceptedLifetime.toNat)
    (ctx : ℕ → NetContext) (fuel : ℕ) :
    ∃ net' out, settle routes ctx (fuel + 4) net = .ok (net', out) ∧
      net'.Agreed i net.MN.homeAddress (net.FA i).careOfAddress net.HA.publicAddress
        (min item.requestedLifetime net.HA.maxAcceptedLifetime) ∧ repliesToMN out = [0] := by
  obtain ⟨udp, udp', ip, ip', pending, out, hs, hout⟩ :=
    settle_granted ha hj.linked hroom hH hF ctx fuel
  let registration := plainRequest item.requestedLifetime net.MN.homeAddress net.HA.publicAddress
    (net.FA i).careOfAddress udp ip item.identification
  let reply := grant (min item.requestedLifetime net.HA.maxAcceptedLifetime) net.MN.homeAddress
    net.HA.publicAddress udp' ip' item.identification
  have h0 : net.HA.lifetimeGranted registration ≠ 0 :=
    lifetimeGranted_ne_zero net.HA ha.lifetime hH
  have hlife : (net.FA i).visitorLifetime reply =
      min item.requestedLifetime net.HA.maxAcceptedLifetime := by
    simp only [← UInt32.toNat_inj, MobileIPForeignAgent.visitorLifetime, reply, grant,
      UInt32.toNat_min]
    omega
  have hvisitor := MobileIPForeignAgent.updateVisitors_visitor (Or.inl rfl : reply.Accepting) h0
    pending hj.nodupFA
  rw [hlife] at hvisitor
  have hbinding : _ = [net.HA.lifetimeGranted registration] :=
    MobileIPHomeAgent.bindingsAfter_binding ha.lifetime hj.nodupHA
  refine ⟨_, out, hs, ⟨rfl, hbinding, ?_, rfl, rfl⟩, hout⟩
  simp only [exchanged, Function.update_self]
  exact hvisitor

theorem Ready.receive_retries (h : net.Ready routes i) {ctx : SendContext} {lifetime : UInt32}
    (hf : net.Fresh i ctx.identification) (hl : lifetime.toNat ≤ 65535)
    (hF : (net.FA i).maxAcceptedLifetime.toNat < lifetime.toNat) (connection : AgentConnection)
    (clock : Clock) (ctx' : NetContext) :
    ∃ connection' out, { net.asking i ctx lifetime connection with flights := [] }.receive routes
        ctx' (.replyToMN ((net.FA i).refusal clock (net.MN.sentDatagram ctx
          (net.FA i).privateAddress (net.FA i).careOfAddress lifetime).request)) =
      .ok (net.asking i ctx'.send (net.FA i).maxAcceptedLifetime connection', out) ∧
      repliesToMN out = [] := by
  have hbound : (net.FA i).maxAcceptedLifetime.toNat ≤ 65535 := by omega
  have hrequest : (net.MN.sentDatagram ctx (net.FA i).privateAddress (net.FA i).careOfAddress
      lifetime).request = plainRequest lifetime net.MN.homeAddress net.HA.publicAddress
        (net.FA i).careOfAddress ⟨net.MN.sourcePort, 434⟩
        ⟨net.MN.homeAddress, (net.FA i).privateAddress⟩ ctx.identification := by
    simp only [MobileIPNode.sentDatagram, h.homeAgent]
    exact request_UDPIPfy hl h.MN.sourcePort (by decide) hf.ne_zero _ _ _ _ _ _ _
  -- whichever branch `sendReply` takes, the refusal comes from the private address
  have hreply : ((net.FA i).refusal clock (net.MN.sentDatagram ctx (net.FA i).privateAddress
      (net.FA i).careOfAddress lifetime).request).reply =
      { code := 69
        lifetime := (net.FA i).maxAcceptedLifetime
        home := net.MN.homeAddress
        homeAgent := net.HA.publicAddress
        UDP := ⟨434, net.MN.sourcePort⟩
        IP := ⟨(net.FA i).privateAddress,
          if net.MN.homeAddress = .zero then .broadcast else net.MN.homeAddress⟩
        identification := ctx.identification } := by
    simp only [MobileIPForeignAgent.refusal, hrequest, plainRequest, ite_self]
    exact reply_UDPIPfy hbound (by decide) h.MN.sourcePort _ _ _ _ _ _ _ _
  let d := (net.FA i).refusal clock (net.MN.sentDatagram ctx (net.FA i).privateAddress
    (net.FA i).careOfAddress lifetime).request
  have hid : d.reply.identification = ctx.identification := by rw [hreply]
  have hport : d.reply.UDP.destinationPort = net.MN.sourcePort := by rw [hreply]
  have hcode : d.reply.code = 69 := by rw [hreply]
  have hsource : d.reply.IP.source = (net.FA i).privateAddress := by rw [hreply]
  have hlifetime : d.reply.lifetime = (net.FA i).maxAcceptedLifetime := by rw [hreply]
  have hreq : (net.asking i ctx lifetime connection).MN.requests = net.MN.requests ++
    [MobileIPNode.sentItem ctx (net.FA i).privateAddress (net.FA i).careOfAddress lifetime] := rfl
  have hr := MobileIPNode.receiveReply_too_long hreq hf.node hid hport hcode ctx'.send
  rw [hsource, hlifetime, MobileIPNode.registerFA_eq] at hr
  exact ⟨_, _, receive_repeats routes { net.asking i ctx lifetime connection with flights := [] }
    ctx' rfl hr h.link, rfl⟩

/-- A registration through a foreign agent ends, after at most one refusal, with a reply that grants
it, and then the home agent, the foreign agent and the node hold the same lifetime. -/
theorem lifetimes_agree (h : net.Ready routes i) {ctx₀ : SendContext} {ctx : ℕ → NetContext}
    {lifetime : UInt32} (h0 : lifetime ≠ 0) (hl : lifetime.toNat ≤ 65535)
    (hF : (net.FA i).maxAcceptedLifetime ≠ 0) (hH : net.HA.maxAcceptedLifetime ≠ 0)
    (hf₀ : net.Fresh i ctx₀.identification) (hf : ∀ k, net.Fresh i (ctx k).send.identification)
    {fuel : ℕ} (hfuel : 6 ≤ fuel) :
    ∃ net' out, settle routes ctx fuel (net.reregister routes ctx₀ (net.FA i).privateAddress
        (net.FA i).careOfAddress lifetime).1 = .ok (net', out) ∧
      net'.Agreed i net.MN.homeAddress (net.FA i).careOfAddress net.HA.publicAddress
        (min lifetime (min (net.FA i).maxAcceptedLifetime net.HA.maxAcceptedLifetime)) ∧
      (repliesToMN out = [0] ∨ repliesToMN out = [69, 0]) := by
  obtain ⟨connection, heq⟩ := h.reregister_eq ctx₀ lifetime
  rw [heq]
  have hasked := h.asked hf₀ h0 hl connection
  obtain ⟨fuel, rfl⟩ := Nat.exists_eq_add_of_le' hfuel
  by_cases hle : lifetime.toNat ≤ (net.FA i).maxAcceptedLifetime.toNat
  · have hmin : min lifetime (min (net.FA i).maxAcceptedLifetime net.HA.maxAcceptedLifetime) =
        min lifetime net.HA.maxAcceptedLifetime := by
      simp only [← UInt32.toNat_inj, UInt32.toNat_min]
      omega
    obtain ⟨net', out, hs, hagreed, hout⟩ :=
      settle_agreed hasked (h.joined_asking ..) h.room hH hle ctx (fuel + 2)
    refine ⟨net', out, hs, ?_, Or.inl hout⟩
    rw [hmin]
    exact hagreed
  · have hlt : (net.FA i).maxAcceptedLifetime.toNat < lifetime.toNat := by omega
    have hmin : min lifetime (min (net.FA i).maxAcceptedLifetime net.HA.maxAcceptedLifetime) =
        min (net.FA i).maxAcceptedLifetime net.HA.maxAcceptedLifetime := by
      simp only [← UInt32.toNat_inj, UInt32.toNat_min]
      omega
    -- the refusal and the second request take one message each
    have hrefused := receive_refuses routes
      { net.asking i ctx₀ lifetime connection with flights := [] } (ctx 0) rfl
      (hasked.passes h.room) (by rw [hasked.request]; exact hlt)
    obtain ⟨connection', out₁, hretried, hout₁⟩ :=
      h.receive_retries hf₀ hl hlt connection (ctx 0).clock (ctx 1)
    obtain ⟨net', out, hs, hagreed, hout⟩ := settle_agreed
      (h.asked (hf 1) hF (by omega) connection') (h.joined_asking ..) h.room hH le_rfl _
      fuel
    refine ⟨net', _, settle_cons rfl hrefused (settle_cons rfl hretried hs), ?_, Or.inr ?_⟩
    · rw [hmin]
      exact hagreed
    · rw [repliesToMN_append, repliesToMN_append, hout₁, hout]
      rfl

/-- The node of the scripts asks for more than both agents accept. -/
theorem lifetimes_agree_retry :
    ∃ net' out, settle Definitions.routes (fun _ => Definitions.handleAt 2) 6
        (Definitions.network.reregister Definitions.routes (Definitions.sendAt 1)
          Definitions.foreignAgentPrivateAddress Definitions.foreignAgentPublicAddress 5000).1 =
        .ok (net', out) ∧
      net'.Agreed false Definitions.mobileNodeAddress Definitions.foreignAgentPublicAddress
        Definitions.homeAgentPublicAddress (min 5000 (min 1800 1800)) ∧
      (repliesToMN out = [0] ∨ repliesToMN out = [69, 0]) := by
  have hready : Definitions.network.Ready Definitions.routes false :=
    { MN := ⟨_, [], rfl, rfl, rfl, .nil⟩
      FA := ⟨_, [], rfl, rfl, rfl, .nil⟩
      HA := ⟨_, [], rfl, .nil⟩
      quiet := rfl
      link := by decide
      toFA := by decide
      toHA := by decide
      homeAgent := rfl
      away := by decide
      room := by decide }
  have hfresh : ∀ k ≠ (0 : UInt32), Definitions.network.Fresh false k := fun k hk =>
    ⟨hk, by simp [Definitions.network, Definitions.mobileNode],
      by simp [Definitions.network, Definitions.foreignAgent]⟩
  exact lifetimes_agree hready (by decide) (by decide) (by decide) (by decide)
    (hfresh 1 (by decide)) (fun _ => hfresh 2 (by decide)) le_rfl

end Network

end MobileIP
