import MobileIP.Proofs.HomeAgent
import MobileIP.Proofs.Node
import MobileIP.Proofs.Visitors
import MobileIP.Spec.Definitions

/-! What a registration through a foreign agent starts from, and what it ends in: the three parties,
the routes that join them, and the request that the node has sent. -/

namespace MobileIP

/-- A state a node can get into from its start. -/
def MobileIPNode.Reachable (mn : MobileIPNode) : Prop :=
  ∃ mn₀ tr, mn₀.sourcePort = 5241 ∧ mn₀.requests = [] ∧ mn₀.connection = {} ∧
    Machine.Run MobileIPNode.step mn₀ tr mn

def MobileIPForeignAgent.Reachable (fa : MobileIPForeignAgent) : Prop :=
  ∃ fa₀ tr, fa₀.sourcePort = 3581 ∧ fa₀.requests = [] ∧ fa₀.visitors = [] ∧
    Machine.Run MobileIPForeignAgent.step fa₀ tr fa

def MobileIPHomeAgent.Reachable (ha : MobileIPHomeAgent) : Prop :=
  ∃ ha₀ tr, ha₀.mobilityBindings = [] ∧ Machine.Run MobileIPHomeAgent.step ha₀ tr ha

theorem MobileIPNode.Reachable.sourcePort {mn : MobileIPNode} (h : mn.Reachable) :
    mn.sourcePort.toNat ≤ 65535 := by
  obtain ⟨mn₀, tr, hport, -, -, hrun⟩ := h
  have heq : mn.sourcePort = 5241 :=
    Machine.Run.invariant (I := fun s => s.sourcePort = 5241) hport
      (fun _ _ _ _ h hs => (sameSetup_step hs).sourcePort.trans h) hrun
  rw [heq]
  decide

theorem MobileIPForeignAgent.Reachable.sourcePort {fa : MobileIPForeignAgent} (h : fa.Reachable) :
    fa.sourcePort.toNat ≤ 65535 := by
  obtain ⟨fa₀, tr, hport, -, -, hrun⟩ := h
  have heq : fa.sourcePort = 3581 :=
    Machine.Run.invariant (I := fun s => s.sourcePort = 3581) hport
      (fun _ _ _ _ h hs => (sourcePort_step hs).trans h) hrun
  rw [heq]
  decide

theorem MobileIPForeignAgent.Reachable.nodup {fa : MobileIPForeignAgent} (h : fa.Reachable) :
    (fa.visitors.map fun v => (v.MNhome, v.MNhomeAgent)).Nodup := by
  obtain ⟨fa₀, tr, -, -, hvis, hrun⟩ := h
  exact Machine.Run.invariant
    (I := fun s => (s.visitors.map fun v => (v.MNhome, v.MNhomeAgent)).Nodup) (by simp [hvis])
    (fun _ _ _ _ => keys_nodup_step) hrun

theorem MobileIPHomeAgent.Reachable.nodup {ha : MobileIPHomeAgent} (h : ha.Reachable) :
    (ha.mobilityBindings.map fun it => (it.homeAddress, it.careOfAddress)).Nodup := by
  obtain ⟨ha₀, tr, hb, hrun⟩ := h
  exact Machine.Run.invariant (I := fun s =>
    (s.mobilityBindings.map fun it => (it.homeAddress, it.careOfAddress)).Nodup) (by simp [hb])
    (fun _ _ _ _ => bindings_nodup_step) hrun

namespace Network

variable {ι : Type} {routes : Routes ι} {net : Network ι} {i : ι}

/-- The node and the foreign agent `i` can reach each other and the home agent, and the lists hold
one entry for each key. -/
structure Joined (routes : Routes ι) (net : Network ι) (i : ι) : Prop where
  link : routes.link (net.FA i).privateAddress = some (.foreign i)
  toFA : routes.backbone (net.FA i).careOfAddress = some (.foreign i)
  toHA : routes.backbone net.HA.publicAddress = some .home
  away : (net.FA i).privateAddress ≠ net.MN.homeAgentPrivateAddress
  portMN : net.MN.sourcePort.toNat ≤ 65535
  portFA : (net.FA i).sourcePort.toNat ≤ 65535
  nodupFA : ((net.FA i).visitors.map fun v => (v.MNhome, v.MNhomeAgent)).Nodup
  nodupHA : (net.HA.mobilityBindings.map fun it => (it.homeAddress, it.careOfAddress)).Nodup

structure Linked (routes : Routes ι) (net : Network ι) (i : ι) : Prop where
  link : routes.link (net.FA i).privateAddress = some (.foreign i)
  toFA : routes.backbone (net.FA i).careOfAddress = some (.foreign i)
  toHA : routes.backbone net.HA.publicAddress = some .home
  away : (net.FA i).privateAddress ≠ net.MN.homeAgentPrivateAddress
  portMN : net.MN.sourcePort.toNat ≤ 65535
  portFA : (net.FA i).sourcePort.toNat ≤ 65535

theorem Joined.linked (h : net.Joined routes i) : net.Linked routes i :=
  ⟨h.link, h.toFA, h.toHA, h.away, h.portMN, h.portFA⟩

/-- The three parties hold the registration of `home` with the lifetime `m`, and no message is in
flight. -/
structure Agreed (net : Network ι) (i : ι) (home careOf homeAgent : IPAddress) (m : UInt32) :
    Prop where
  quiet : net.flights = []
  binding : (net.HA.mobilityBindings.filter fun it =>
    decide ((it.homeAddress, it.careOfAddress) = (home, careOf))).map
      MobilityBindingListItem.remainingLifetime = [m]
  visitor : ((net.FA i).visitors.filter fun v =>
    decide ((v.MNhome, v.MNhomeAgent) = (home, homeAgent))).map
      VisitorListItem.remainingLifetime = [m]
  connection : net.MN.connection.remainingLifetime = m
  isAway : net.MN.connection.isHome = false

structure Asked (net : Network ι) (i : ι) (d : Datagram RegistrationRequestPacket)
    (base : RequestList) (item : RequestListItem) : Prop where
  flight : net.flights = [.requestToFA i d]
  request : d.request = plainRequest item.requestedLifetime net.MN.homeAddress net.HA.publicAddress
    (net.FA i).careOfAddress ⟨net.MN.sourcePort, 434⟩
    ⟨net.MN.homeAddress, (net.FA i).privateAddress⟩ item.identification
  requests : net.MN.requests = base ++ [item]
  careOf : item.careOfAddress = (net.FA i).careOfAddress
  ne_zero : item.identification ≠ 0
  node : ∀ x ∈ base, x.identification ≠ item.identification
  agent : ∀ x ∈ (net.FA i).requests, x.identification ≠ item.identification
  lifetime : item.requestedLifetime ≠ 0
  bound : item.requestedLifetime.toNat ≤ 65535

def repliesToMN (out : List Emission) : List UInt8 :=
  (out.filter fun e => e.output = 0).filterMap Emission.code

theorem repliesToMN_append (out out' : List Emission) :
    repliesToMN (out ++ out') = repliesToMN out ++ repliesToMN out' := by
  simp [repliesToMN]

theorem Asked.passes {d : Datagram RegistrationRequestPacket} {base : RequestList}
    {item : RequestListItem} (ha : net.Asked i d base item)
    (hroom : RequestList.size (net.FA i).requests < (net.FA i).maxPendingRegistrations) :
    (net.FA i).Passes d.request := by
  rw [ha.request]
  exact ⟨rfl, ⟨rfl, rfl⟩, rfl, ⟨rfl, rfl⟩, hroom, ⟨rfl, rfl⟩⟩

def asking (net : Network ι) (i : ι) (ctx : SendContext) (lifetime : UInt32)
    (connection : AgentConnection) : Network ι :=
  { net with
    MN := { net.MN with
      requests := net.MN.requests ++ [MobileIPNode.sentItem ctx (net.FA i).privateAddress
        (net.FA i).careOfAddress lifetime]
      connection := connection }
    flights := [.requestToFA i (net.MN.sentDatagram ctx (net.FA i).privateAddress
      (net.FA i).careOfAddress lifetime)] }

structure Fresh (net : Network ι) (i : ι) (identification : UInt32) : Prop where
  ne_zero : identification ≠ 0
  node : ∀ x ∈ net.MN.requests, x.identification ≠ identification
  agent : ∀ x ∈ (net.FA i).requests, x.identification ≠ identification

/-- The network before the node is told to register with the foreign agent `i`. -/
structure Ready (routes : Routes ι) (net : Network ι) (i : ι) : Prop where
  MN : net.MN.Reachable
  FA : (net.FA i).Reachable
  HA : net.HA.Reachable
  quiet : net.flights = []
  link : routes.link (net.FA i).privateAddress = some (.foreign i)
  toFA : routes.backbone (net.FA i).careOfAddress = some (.foreign i)
  toHA : routes.backbone net.HA.publicAddress = some .home
  homeAgent : net.MN.homeAgentPublicAddress = net.HA.publicAddress
  away : (net.FA i).privateAddress ≠ net.MN.homeAgentPrivateAddress
  room : RequestList.size (net.FA i).requests < (net.FA i).maxPendingRegistrations

theorem Ready.joined_asking (h : net.Ready routes i) (ctx : SendContext) (lifetime : UInt32)
    (connection : AgentConnection) : (net.asking i ctx lifetime connection).Joined routes i :=
  ⟨h.link, h.toFA, h.toHA, h.away, h.MN.sourcePort, h.FA.sourcePort, h.FA.nodup, h.HA.nodup⟩

theorem Linked.asked (h : net.Linked routes i)
    (hh : net.MN.homeAgentPublicAddress = net.HA.publicAddress) {ctx : SendContext}
    {lifetime : UInt32} (hf : net.Fresh i ctx.identification) (h0 : lifetime ≠ 0)
    (hl : lifetime.toNat ≤ 65535) (connection : AgentConnection) :
    (net.asking i ctx lifetime connection).Asked i
      (net.MN.sentDatagram ctx (net.FA i).privateAddress (net.FA i).careOfAddress lifetime)
      net.MN.requests (MobileIPNode.sentItem ctx (net.FA i).privateAddress
        (net.FA i).careOfAddress lifetime) := by
  refine ⟨rfl, ?_, rfl, rfl, hf.ne_zero, hf.node, hf.agent, h0, hl⟩
  simp only [MobileIPNode.sentDatagram, hh]
  exact request_UDPIPfy hl h.portMN (by decide) hf.ne_zero _ _ _ _ _ _ _

theorem Ready.asked (h : net.Ready routes i) {ctx : SendContext} {lifetime : UInt32}
    (hf : net.Fresh i ctx.identification) (h0 : lifetime ≠ 0) (hl : lifetime.toNat ≤ 65535)
    (connection : AgentConnection) : (net.asking i ctx lifetime connection).Asked i
      (net.MN.sentDatagram ctx (net.FA i).privateAddress (net.FA i).careOfAddress lifetime)
      net.MN.requests (MobileIPNode.sentItem ctx (net.FA i).privateAddress
        (net.FA i).careOfAddress lifetime) :=
  Linked.asked ⟨h.link, h.toFA, h.toHA, h.away, h.MN.sourcePort, h.FA.sourcePort⟩ h.homeAgent hf h0
    hl connection

theorem Ready.reregister_eq (h : net.Ready routes i) (ctx : SendContext) (lifetime : UInt32) :
    ∃ connection, (net.reregister routes ctx (net.FA i).privateAddress (net.FA i).careOfAddress
      lifetime).1 = net.asking i ctx lifetime connection := by
  have haway : ¬ net.MN.homeAgentPrivateAddress = (net.FA i).privateAddress := h.away.symm
  have hdest : (net.MN.sentDatagram ctx (net.FA i).privateAddress (net.FA i).careOfAddress
    lifetime).destination = (net.FA i).privateAddress := rfl
  simp only [reregister, MobileIPNode.reregister, if_neg haway, MobileIPNode.registerFA_eq,
    h.quiet, List.nil_append, List.flatMap_cons, List.flatMap_nil, List.append_nil, Routes.fromMN,
    hdest, h.link]
  exact ⟨_, rfl⟩

end Network

end MobileIP
