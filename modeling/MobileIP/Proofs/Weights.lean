import MobileIP.Proofs.Emissions

/-! The messages that a message leads to at most. Some replies make the node ask once more: one that
names a shorter lifetime, and one that names another home agent. The first kind can follow only on a
longer lifetime, the second only on a home agent that the node did not know. -/

namespace MobileIP

/-- The node knows the home agent if a request that it has sent does, or a reply by which it asks
again; and where a reply names the home agent to the node, it is the right one. -/
def RegistrationMessage.Fits (publicAddress known : IPAddress) : RegistrationMessage → Prop
  | .request d => d.payload.homeAgent = publicAddress → known = publicAddress
  | .reply d => (d.payload.code = 136 → d.payload.homeAgent = publicAddress) ∧
    (d.payload.code = 69 → d.payload.homeAgent = publicAddress → known = publicAddress)

theorem RegistrationMessage.Fits.learn {publicAddress known : IPAddress} {m : RegistrationMessage}
    (h : m.Fits publicAddress known) : m.Fits publicAddress publicAddress := by
  cases m with
  | request d => exact fun _ => rfl
  | reply d => exact ⟨h.1, fun _ _ => rfl⟩

/-- The messages that a request of the node leads to at most, itself included: each unit of its
lifetime may be refused and asked for again, and the home agent may have to be named first. -/
def requestWeight (publicAddress homeAgent : IPAddress) (lifetime : UInt16) : ℕ :=
  if homeAgent = publicAddress then 2 * lifetime.toNat + 4 else 2 * lifetime.toNat + 131078

def replyWeight (publicAddress : IPAddress) (m : RegistrationReplyPacket) : ℕ :=
  if m.code = 69 ∨ m.code = 136 then requestWeight publicAddress m.homeAgent m.lifetime + 1 else 1

section Network

variable {ι : Type} {publicAddress privateAddress : IPAddress} {routes : Routes ι}

def Flight.weight (publicAddress privateAddress : IPAddress) : Flight ι → ℕ
  | .requestToHA _ d =>
    if d.payload.homeAgent = publicAddress ∧
      (d.destination = privateAddress ∨ d.destination = publicAddress) then 3 else 131077
  | .requestToFA _ d => requestWeight publicAddress d.payload.homeAgent d.payload.lifetime
  | .replyToFA _ d => replyWeight publicAddress d.payload + 1
  | .replyToMN d => replyWeight publicAddress d.payload

/-- The addresses that lead to the home agent are its own: on its link either of them, and elsewhere
the public one. -/
structure Routes.LeadHome (routes : Routes ι) (publicAddress privateAddress : IPAddress) : Prop where
  link : ∀ a, routes.link a = some .home → a = privateAddress ∨ a = publicAddress
  backbone : ∀ a, routes.backbone a = some .home → a = publicAddress

abbrev sumWeight (publicAddress privateAddress : IPAddress) (flights : List (Flight ι)) : ℕ :=
  (flights.map (Flight.weight publicAddress privateAddress)).sum

theorem requestWeight_pos (publicAddress homeAgent : IPAddress) (lifetime : UInt16) :
    4 ≤ requestWeight publicAddress homeAgent lifetime := by
  unfold requestWeight
  split_ifs
  · omega
  · omega

theorem requestWeight_lt (publicAddress homeAgent : IPAddress) {lifetime lifetime' : UInt16}
    (h : lifetime'.toNat < lifetime.toNat) : requestWeight publicAddress homeAgent lifetime' + 1 <
      requestWeight publicAddress homeAgent lifetime := by
  unfold requestWeight
  split_ifs
  · omega
  · omega

theorem requestWeight_le {publicAddress known homeAgent : IPAddress} (lifetime : UInt16)
    (h : homeAgent = publicAddress → known = publicAddress) :
    requestWeight publicAddress known lifetime ≤ requestWeight publicAddress homeAgent lifetime := by
  unfold requestWeight
  by_cases hagent : homeAgent = publicAddress
  · rw [if_pos hagent, if_pos (h hagent)]
  · rw [if_neg hagent]
    split_ifs
    · omega
    · exact le_rfl

theorem replyWeight_pos (publicAddress : IPAddress) (m : RegistrationReplyPacket) :
    1 ≤ replyWeight publicAddress m := by
  unfold replyWeight
  split_ifs
  · omega
  · exact le_rfl

theorem weight_fromMN (hroutes : routes.LeadHome publicAddress privateAddress) (output : ℕ)
    (d : Datagram RegistrationRequestPacket) :
    sumWeight publicAddress privateAddress (routes.fromMN ⟨output, .request d⟩) ≤
      requestWeight publicAddress d.payload.homeAgent d.payload.lifetime := by
  simp only [Routes.fromMN]
  split
  · next hlink =>
    have hown := hroutes.link _ hlink
    simp only [sumWeight, List.map_singleton, List.sum_singleton, Flight.weight, hown, and_true,
      requestWeight]
    split_ifs
    · omega
    · omega
  · simp [sumWeight, Flight.weight]
  · simp [sumWeight]

theorem weight_fromFA_reply (output : ℕ) (d : Datagram RegistrationReplyPacket) :
    sumWeight publicAddress privateAddress (routes.fromFA ⟨output, .reply d⟩) ≤
      replyWeight publicAddress d.payload := by
  simp only [Routes.fromFA]
  split_ifs
  · simp [sumWeight, Flight.weight]
  · simp [sumWeight]

/-- What a foreign agent relays names the home agent that it is sent to. -/
theorem weight_fromFA_request (hroutes : routes.LeadHome publicAddress privateAddress) (output : ℕ)
    {d : Datagram RegistrationRequestPacket} (hd : d.destination = d.payload.homeAgent) :
    sumWeight publicAddress privateAddress (routes.fromFA ⟨output, .request d⟩) ≤ 3 := by
  simp only [Routes.fromFA]
  split
  · next hbackbone =>
    have hpublic := hroutes.backbone _ hbackbone
    split_ifs
    · simp [sumWeight, Flight.weight, hpublic, ← hd]
    · simp [sumWeight]
  · simp [sumWeight]

theorem weight_fromHA (output : ℕ) (d : Datagram RegistrationReplyPacket) :
    sumWeight publicAddress privateAddress (routes.fromHA ⟨output, .reply d⟩) ≤
      replyWeight publicAddress d.payload + 1 := by
  simp only [Routes.fromHA]
  split_ifs
  · simp [sumWeight, Flight.weight]
  · split
    · simp [sumWeight, Flight.weight]
    · simp [sumWeight]

/-- What the node asks again weighs less than the reply it asks on. -/
theorem MobileIPNode.AsksAgain.weight_lt (hroutes : routes.LeadHome publicAddress privateAddress)
    {d : Datagram RegistrationReplyPacket} {r : MobileIPNode × List Emission}
    (hasks : MobileIPNode.AsksAgain d.reply r)
    (hcode : d.payload.code = 69 ∨ d.payload.code = 136)
    (hknown : d.payload.homeAgent = publicAddress → r.1.homeAgentPublicAddress = publicAddress) :
    sumWeight publicAddress privateAddress (r.2.flatMap routes.fromMN) <
      replyWeight publicAddress d.payload := by
  have hlifetime : d.reply.lifetime.toUInt16 = d.payload.lifetime := by simp [Datagram.reply]
  obtain ⟨d', hout, hagent, hshort⟩ := hasks
  rw [hout, List.flatMap_singleton, replyWeight, if_pos hcode]
  refine Nat.lt_succ_of_le ((weight_fromMN hroutes 0 d').trans ?_)
  rw [hagent, hshort, hlifetime]
  exact requestWeight_le _ hknown

theorem MobileIPNode.AsksAgain.fits {reply : RegistrationReply} {r : MobileIPNode × List Emission}
    (hasks : MobileIPNode.AsksAgain reply r) : ∀ f ∈ r.2.flatMap routes.fromMN,
      f.message.Fits publicAddress r.1.homeAgentPublicAddress := by
  obtain ⟨d', hout, hagent, -⟩ := hasks
  refine Network.message_flatMap (RegistrationMessage.Fits publicAddress r.1.homeAgentPublicAddress)
    (fun _ _ => Routes.fromMN_message) fun e he => ?_
  rw [hout] at he
  rw [List.mem_singleton.1 he]
  exact fun heq => hagent.symm.trans heq

end Network

end MobileIP
