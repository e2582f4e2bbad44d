import MobileIP.Lib.Potential
import MobileIP.Proofs.Weights

/-! The arrival of a message lowers the weight of those in flight. -/

namespace MobileIP

namespace Network

variable {ι : Type} {publicAddress privateAddress : IPAddress} {routes : Routes ι}

/-- The home agent has the given addresses, and the messages in flight fit what the node knows of
them. -/
structure Informed (publicAddress privateAddress : IPAddress) (net : Network ι) : Prop where
  home : net.HA.publicAddress = publicAddress ∧ net.HA.privateAddress = privateAddress
  fits : ∀ f ∈ net.flights, f.message.Fits publicAddress net.MN.homeAgentPublicAddress

variable [DecidableEq ι] {net net' : Network ι} {out : List Emission}

omit [DecidableEq ι] in
theorem Informed.names (h : net.Informed publicAddress privateAddress)
    {r : MobileIPNode × List Emission} (hr : net.MN.Names r) :
    { net with MN := r.1, flights := net.flights ++ r.2.flatMap routes.fromMN }.Informed
      publicAddress privateAddress := by
  refine ⟨h.home, ?_⟩
  dsimp only
  rw [hr.address]
  refine List.forall_mem_append.2 ⟨h.fits, message_flatMap
    (RegistrationMessage.Fits publicAddress net.MN.homeAgentPublicAddress)
    (fun _ _ => Routes.fromMN_message) fun e he => ?_⟩
  obtain ⟨d, rfl, hd⟩ := hr.out e he
  exact fun heq => hd.symm.trans heq

theorem fits_of_code {d : Datagram RegistrationReplyPacket} {known : IPAddress}
    (h69 : d.payload.code ≠ 69) (h136 : d.payload.code ≠ 136) :
    (RegistrationMessage.reply d).Fits publicAddress known :=
  ⟨fun h => absurd h h136, fun h => absurd h h69⟩

structure Settles (publicAddress privateAddress : IPAddress) (net : Network ι) (f : Flight ι)
    (net' : Network ι) : Prop where
  informed : net'.Informed publicAddress privateAddress
  flights : ∃ new, net'.flights = net.flights ++ new ∧
    sumWeight publicAddress privateAddress new < f.weight publicAddress privateAddress

theorem receive_requestToHA (h : net.Informed publicAddress privateAddress) {ctx : NetContext}
    {port : ℕ} {d : Datagram RegistrationRequestPacket}
    (hs : net.receive routes ctx (.requestToHA port d) = .ok (net', out)) :
    Settles publicAddress privateAddress net (.requestToHA port d) net' := by
  simp only [Network.receive] at hs
  have haddresses := net.HA.processRegistration_addresses ctx.clock port d.request
  have hanswered := net.HA.processRegistration_answered ctx.clock port d.request
  generalize net.HA.processRegistration ctx.clock port d.request = r at haddresses hanswered hs
  obtain ⟨ha, out'⟩ := r
  dsimp only at haddresses hanswered hs
  obtain ⟨rfl, -⟩ := Prod.mk.inj (Except.ok.inj hs)
  obtain ⟨hpublic, hprivate⟩ := h.home
  have hhome : ha.publicAddress = publicAddress ∧ ha.privateAddress = privateAddress :=
    ⟨haddresses.1.trans hpublic, haddresses.2.trans hprivate⟩
  rcases hanswered with rfl | ⟨output, d', rfl, h69, h136⟩
  · refine ⟨⟨hhome, by simpa using h.fits⟩, [], by simp, ?_⟩
    simp only [sumWeight, List.map_nil, List.sum_nil, Flight.weight]
    split_ifs
    · omega
    · omega
  · rw [hpublic, hprivate] at h136
    refine ⟨⟨hhome, List.forall_mem_append.2 ⟨h.fits, ?_⟩⟩, _, rfl, ?_⟩
    · refine message_flatMap (RegistrationMessage.Fits publicAddress
        net.MN.homeAgentPublicAddress) (fun _ _ => Routes.fromHA_message) fun e he => ?_
      rw [List.mem_singleton.1 he]
      exact ⟨fun hcode => (h136 hcode).1, fun hcode => absurd hcode h69⟩
    · rw [List.flatMap_singleton]
      refine (weight_fromHA output d').trans_lt ?_
      have hshort := d'.payload.lifetime.toNat_lt
      by_cases hcode : d'.payload.code = 136
      · -- the home agent names itself
        obtain ⟨hagent, hunknown⟩ := h136 hcode
        have hweight : Flight.weight publicAddress privateAddress (.requestToHA port d : Flight ι) =
          131077 := if_neg hunknown
        rw [hweight, replyWeight, if_pos (Or.inr hcode), requestWeight, if_pos hagent]
        omega
      · rw [replyWeight, if_neg (not_or.2 ⟨h69, hcode⟩), Flight.weight]
        split_ifs
        · omega
        · omega

theorem receive_requestToFA (hroutes : routes.LeadHome publicAddress privateAddress)
    (h : net.Informed publicAddress privateAddress) {ctx : NetContext} {i : ι}
    {d : Datagram RegistrationRequestPacket}
    (hd : (RegistrationMessage.request d).Fits publicAddress net.MN.homeAgentPublicAddress)
    (hs : net.receive routes ctx (.requestToFA i d) = .ok (net', out)) :
    Settles publicAddress privateAddress net (.requestToFA i d) net' := by
  simp only [Network.receive] at hs
  have hpos := requestWeight_pos publicAddress d.payload.homeAgent d.payload.lifetime
  have hsends := (net.FA i).relayRequest_sends ctx.clock ctx.ttl d.request
  generalize (net.FA i).relayRequest ctx.clock ctx.ttl d.request = r at hsends hs
  obtain ⟨fa, out'⟩ := r
  dsimp only at hsends hs
  obtain ⟨rfl, -⟩ := Prod.mk.inj (Except.ok.inj hs)
  rcases hsends with (rfl | ⟨d', rfl, hagent, h136, h69⟩) | rfl
  · refine ⟨⟨h.home, by simpa using h.fits⟩, [], by simp, ?_⟩
    simp only [sumWeight, List.map_nil, List.sum_nil, Flight.weight]
    omega
  · refine ⟨⟨h.home, List.forall_mem_append.2 ⟨h.fits, ?_⟩⟩, _, rfl, ?_⟩
    · refine message_flatMap (RegistrationMessage.Fits publicAddress
        net.MN.homeAgentPublicAddress) (fun _ _ => Routes.fromFA_message) fun e he => ?_
      rw [List.mem_singleton.1 he]
      exact ⟨fun hcode => absurd hcode h136, fun _ heq => hd (hagent.symm.trans heq)⟩
    · rw [List.flatMap_singleton]
      refine (weight_fromFA_reply 0 d').trans_lt ?_
      by_cases hcode : d'.payload.code = 69
      · have hshorter : d'.payload.lifetime.toNat < d.payload.lifetime.toNat := h69 hcode
        rw [replyWeight, if_pos (Or.inl hcode), hagent]
        exact requestWeight_lt publicAddress d.payload.homeAgent hshorter
      · rw [replyWeight, if_neg (not_or.2 ⟨hcode, h136⟩)]
        exact lt_of_lt_of_le (by decide) hpos
  · refine ⟨⟨h.home, List.forall_mem_append.2 ⟨h.fits, ?_⟩⟩, _, rfl, ?_⟩
    · refine message_flatMap (RegistrationMessage.Fits publicAddress
        net.MN.homeAgentPublicAddress) (fun _ _ => Routes.fromFA_message) fun e he => ?_
      rw [List.mem_singleton.1 he]
      exact hd
    · rw [List.flatMap_singleton]
      exact (weight_fromFA_request hroutes 1 rfl).trans_lt (lt_of_lt_of_le (by decide) hpos)

theorem receive_replyToFA (h : net.Informed publicAddress privateAddress) {ctx : NetContext} {i : ι}
    {d : Datagram RegistrationReplyPacket}
    (hd : (RegistrationMessage.reply d).Fits publicAddress net.MN.homeAgentPublicAddress)
    (hs : net.receive routes ctx (.replyToFA i d) = .ok (net', out)) :
    Settles publicAddress privateAddress net (.replyToFA i d) net' := by
  simp only [Network.receive] at hs
  rcases hr : (net.FA i).relayReply ctx.clock d.reply with ⟨fa, out'⟩
  rw [hr] at hs
  obtain ⟨rfl, -⟩ := Prod.mk.inj (Except.ok.inj hs)
  rcases MobileIPForeignAgent.relayReply_cases hr with ⟨-, -, -, -, rfl⟩ |
    ⟨request, -, -, -, -, rfl⟩
  · refine ⟨⟨h.home, by simpa using h.fits⟩, [], by simp, ?_⟩
    simp only [sumWeight, List.map_nil, List.sum_nil, Flight.weight]
    omega
  · have hcode : d.reply.code.toUInt8 = d.payload.code := by simp [Datagram.reply]
    have hlifetime : d.reply.lifetime.toUInt16 = d.payload.lifetime := by simp [Datagram.reply]
    rw [MobileIPForeignAgent.sendReplyFromHA_eq]
    generalize hd' : (net.FA i).passedOn ctx.clock d.reply request.rr.UDP.sourcePort = d'
    have hfields : d'.payload.code = d.payload.code ∧ d'.payload.lifetime = d.payload.lifetime ∧
        d'.payload.homeAgent = d.payload.homeAgent := by
      rw [← hd']
      exact ⟨hcode, hlifetime, rfl⟩
    refine ⟨⟨h.home, List.forall_mem_append.2 ⟨h.fits, ?_⟩⟩, _, rfl, ?_⟩
    · refine message_flatMap (RegistrationMessage.Fits publicAddress
        net.MN.homeAgentPublicAddress) (fun _ _ => Routes.fromFA_message) fun e he => ?_
      rw [List.mem_singleton.1 he]
      simpa only [RegistrationMessage.Fits, hfields] using hd
    · rw [List.flatMap_singleton]
      refine (weight_fromFA_reply 0 d').trans_lt ?_
      simp only [Flight.weight, replyWeight, hfields]
      exact Nat.lt_succ_self _

theorem receive_replyToMN (hroutes : routes.LeadHome publicAddress privateAddress)
    (h : net.Informed publicAddress privateAddress) {ctx : NetContext}
    {d : Datagram RegistrationReplyPacket}
    (hd : (RegistrationMessage.reply d).Fits publicAddress net.MN.homeAgentPublicAddress)
    (hs : net.receive routes ctx (.replyToMN d) = .ok (net', out)) :
    Settles publicAddress privateAddress net (.replyToMN d) net' := by
  simp only [Network.receive] at hs
  cases hr : net.MN.receiveReply ctx.send d.reply with
  | error e =>
    rw [hr] at hs
    cases hs
  | ok r =>
    rw [hr] at hs
    obtain ⟨mn, out'⟩ := r
    obtain ⟨rfl, -⟩ := Prod.mk.inj (Except.ok.inj hs)
    have hpos := replyWeight_pos publicAddress d.payload
    have h69 : d.reply.code = 69 → d.payload.code = 69 := fun hcode => by
      simpa [Datagram.reply] using congrArg UInt32.toUInt8 hcode
    have h136 : d.reply.code = 136 → d.payload.code = 136 := fun hcode => by
      simpa [Datagram.reply] using congrArg UInt32.toUInt8 hcode
    rcases MobileIPNode.receiveReply_heeds hr with ⟨hsame, rfl⟩ | ⟨hcode, hsame, hasks⟩ |
      ⟨hcode, hlearned, hasks⟩
    · refine ⟨⟨h.home, ?_⟩, [], by simp, hpos⟩
      dsimp only at hsame ⊢
      rw [hsame]
      simpa using h.fits
    · dsimp only at hsame
      refine ⟨⟨h.home, List.forall_mem_append.2 ⟨?_, hasks.fits⟩⟩, _, rfl,
        hasks.weight_lt hroutes (Or.inl (h69 hcode)) ?_⟩
      · dsimp only
        rw [hsame]
        exact h.fits
      · dsimp only
        rw [hsame]
        exact hd.2 (h69 hcode)
    · have hpublic : mn.homeAgentPublicAddress = publicAddress :=
        hlearned.trans (hd.1 (h136 hcode))
      have hlearn : ∀ f ∈ net.flights,
          f.message.Fits publicAddress mn.homeAgentPublicAddress := by
        intro f hf
        rw [hpublic]
        exact (h.fits f hf).learn
      rcases hasks with rfl | hasks
      · exact ⟨⟨h.home, by simpa using hlearn⟩, [], by simp, hpos⟩
      · exact ⟨⟨h.home, List.forall_mem_append.2 ⟨hlearn, hasks.fits⟩⟩, _, rfl,
          hasks.weight_lt hroutes (Or.inr (h136 hcode)) fun _ => hpublic⟩

theorem receive_settles (hroutes : routes.LeadHome publicAddress privateAddress)
    (h : net.Informed publicAddress privateAddress) {ctx : NetContext} {f : Flight ι}
    (hf : f.message.Fits publicAddress net.MN.homeAgentPublicAddress)
    (hs : net.receive routes ctx f = .ok (net', out)) :
    Settles publicAddress privateAddress net f net' := by
  cases f with
  | requestToHA port d => exact receive_requestToHA h hs
  | requestToFA i d => exact receive_requestToFA hroutes h hf hs
  | replyToFA i d => exact receive_replyToFA h hf hs
  | replyToMN d => exact receive_replyToMN hroutes h hf hs

/-- The arrival of a message lowers the weight of those in flight. -/
theorem deliver_settles (hroutes : routes.LeadHome publicAddress privateAddress)
    (h : net.Informed publicAddress privateAddress) {ctx : NetContext} {k : ℕ}
    (hk : k < net.flights.length) (hs : net.deliver routes ctx k = .ok (net', out)) :
    net'.Informed publicAddress privateAddress ∧
      sumWeight publicAddress privateAddress net'.flights <
        sumWeight publicAddress privateAddress net.flights := by
  have hf : net.flights[k]? = some net.flights[k] := List.getElem?_eq_getElem hk
  simp only [deliver, hf] at hs
  have herased : { net with flights := net.flights.eraseIdx k }.Informed publicAddress
      privateAddress :=
    ⟨h.home, fun f hf => h.fits f ((List.eraseIdx_sublist _ _).subset hf)⟩
  obtain ⟨hinformed, new, hnew, hlt⟩ := receive_settles hroutes herased
    (h.fits _ (List.getElem_mem hk)) hs
  refine ⟨hinformed, ?_⟩
  rw [hnew]
  exact Channel.sum_weight_lt hf hlt

theorem Informed.step (hroutes : routes.LeadHome publicAddress privateAddress)
    (h : net.Informed publicAddress privateAddress) {e : NetEvent ι}
    (hs : net.step routes e = .ok (net', out)) : net'.Informed publicAddress privateAddress := by
  cases e with
  | reregister ctx address careOfAddress lifetime =>
    cases hs
    exact h.names (net.MN.reregister_names ctx address careOfAddress lifetime)
  | deliver ctx k =>
    by_cases hk : k < net.flights.length
    · exact (deliver_settles hroutes h hk hs).1
    · simp only [Network.step, deliver, List.getElem?_eq_none (not_lt.1 hk)] at hs
      cases hs
      exact h
  | tickMN ctx =>
    cases hs
    exact h.names (net.MN.runTimer_names ctx)
  | tickFA i clock =>
    cases hs
    refine ⟨h.home, List.forall_mem_append.2 ⟨h.fits, ?_⟩⟩
    refine message_flatMap (RegistrationMessage.Fits publicAddress net.MN.homeAgentPublicAddress)
      (fun _ _ => Routes.fromFA_message) fun e he => ?_
    obtain ⟨d, rfl, hcode⟩ := (net.FA i).sendRequestTimedOutReply_code clock _ e he
    exact fits_of_code (by rw [hcode]; decide) (by rw [hcode]; decide)
  | tickHA =>
    cases hs
    exact ⟨h.home, h.fits⟩

end Network

end MobileIP
