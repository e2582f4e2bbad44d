import MobileIP.Proofs.Node
import MobileIP.Proofs.Soliciter

/-! What the mobile host sends to its home agent. `reregister` asks it for lifetime 0 only; the
renewal of a connection and the second try after a reply do not look where they send. -/

namespace MobileIP

/-- The events of the node that come with an event of the host. -/
inductive HostEvent.Causes : HostEvent → MNEvent → Prop where
  | simpleAction {now : ℕ} {ctx : SendContext} {unset : UnsetAdvertisement} {p : Packet}
      {address careOfAddress : IPAddress} {lifetime : UInt32} :
      Causes (.simpleAction now ctx unset p) (.reregister ctx address careOfAddress lifetime)
  | push {ctx : SendContext} {p : Packet} : Causes (.push ctx p) (.push ctx p)
  | runTimer {ctx : ℕ → SendContext} : Causes (.runTimer ctx) (.runTimer ctx)
  | requestTimeout {value : UInt32} : Causes (.requestTimeout value) (.requestTimeout value)

namespace MobileHost

variable {h h' h₀ : MobileHost} {e : HostEvent} {out : List Emission}

theorem processAdvertisement_node (h : MobileHost) (now : ℕ) (ctx : SendContext)
    (ether : EtherHeader) (adv : RouterAdvertisement) :
    ((h.processAdvertisement now ctx ether adv).1.MN = h.MN ∧
        (h.processAdvertisement now ctx ether adv).2 = []) ∨
      h.MN.reregister ctx adv.IP.source adv.careOfAddress adv.registrationLifetime =
        ((h.processAdvertisement now ctx ether adv).1.MN,
          (h.processAdvertisement now ctx ether adv).2) := by
  unfold processAdvertisement
  dsimp only
  split_ifs
  · exact Or.inl ⟨rfl, rfl⟩
  · exact Or.inl ⟨rfl, rfl⟩
  · exact Or.inr rfl
  · exact Or.inr rfl
  · exact Or.inr rfl
  · exact Or.inl ⟨rfl, rfl⟩
  · exact Or.inr rfl
  · exact Or.inl ⟨rfl, rfl⟩

theorem step_of_causes {e' : MNEvent} (hs : h.step e = .ok (h', out)) (hc : e.Causes e')
    (hne : e'.isReregister = false) : h.MN.step e' = .ok (h'.MN, out) := by
  cases hc with
  | simpleAction => cases hne
  | push =>
    simp only [step] at hs
    split at hs
    · cases hs
    · next mn out' hpush =>
      cases hs
      exact hpush
  | runTimer =>
    cases hs
    rfl
  | requestTimeout =>
    cases hs
    rfl

theorem step_node (hs : h.step e = .ok (h', out)) :
    (h'.MN = h.MN ∧ out = []) ∨ ∃ e', e.Causes e' ∧ h.MN.step e' = .ok (h'.MN, out) := by
  cases e with
  | simpleAction now ctx unset p =>
    rcases simpleAction_cases hs with ⟨-, rfl, rfl⟩ | ⟨adv, -, heq⟩
    · exact Or.inl ⟨rfl, rfl⟩
    · have hnode := h.processAdvertisement_node now ctx (processEtherHeader p true).1 adv
      rw [heq] at hnode
      exact hnode.imp_right fun hreg => ⟨_, .simpleAction, congrArg Except.ok hreg⟩
  | lifetimeExpired =>
    cases hs
    exact Or.inl ⟨rfl, rfl⟩
  | enableFastMoving value =>
    cases hs
    exact Or.inl ⟨rfl, rfl⟩
  | push ctx p => exact Or.inr ⟨_, .push, step_of_causes hs .push rfl⟩
  | runTimer ctx => exact Or.inr ⟨_, .runTimer, step_of_causes hs .runTimer rfl⟩
  | requestTimeout value => exact Or.inr ⟨_, .requestTimeout, step_of_causes hs .requestTimeout rfl⟩

end MobileHost

namespace MobileIPNode

variable {mn mn' : MobileIPNode} {reply : RegistrationReply}

inductive RegistersHome (mn : MobileIPNode) : MNEvent → Prop where
  | renewal {ctx : ℕ → SendContext}
      (renews : Renews mn.connection (RequestList.decreaseLifetime mn.requests))
      (agent : mn.connection.agentAddress = mn.homeAgentPrivateAddress)
      (lifetime : mn.connection.lifetime.toUInt16 ≠ 0) : RegistersHome mn (.runTimer ctx)
  | retry {ctx : SendContext} {p : Packet} {reply : RegistrationReply}
      (type : getPacketType p = .reply) (reads : (processRegistrationReplyPacket p).1 = .ok reply)
      (valid : mn.checkReplyValidity reply = .ok true) (retries : mn.Retries reply)
      (agent : reply.IP.source = mn.homeAgentPrivateAddress)
      (lifetime : reply.lifetime.toUInt16 ≠ 0) : RegistersHome mn (.push ctx p)

theorem RegistersHome.isReregister {e : MNEvent} (h : mn.RegistersHome e) :
    e.isReregister = false := by
  cases h with
  | renewal => rfl
  | retry => rfl

theorem checkReplyValidity_mem (h : mn.checkReplyValidity reply = .ok true) :
    ∃ it ∈ mn.requests, it.identification = reply.identification := by
  unfold checkReplyValidity RequestList.getLastRequest at h
  cases hlast : mn.requests.getLast? with
  | none => simp [hlast] at h
  | some last =>
    refine ⟨last, List.mem_of_getLast? hlast, ?_⟩
    by_contra hne
    simp [hlast, Ne.symm hne] at h

theorem processReply_retries (hid : ∃ it ∈ mn.requests, it.identification = reply.identification)
    (hr : mn.Retries reply) (ctx : SendContext) : ∃ e ∈ (mn.processReply ctx reply).2,
      e.destination = reply.IP.source ∧ e.requestedLifetime = some reply.lifetime.toUInt16 := by
  unfold processReply
  cases hremove : RequestList.remove reply.identification mn.requests with
  | error e =>
    rw [RequestList.remove_error hremove, RequestList.remove_error_iff] at hremove
    obtain ⟨it, hit, hid⟩ := hid
    exact absurd hid (hremove it hit)
  | ok res =>
    have hsent : ∀ mn : MobileIPNode, ∃ e ∈ (mn.registerFA ctx reply.IP.source res.1.careOfAddress
        reply.lifetime).2, e.destination = reply.IP.source ∧
          e.requestedLifetime = some reply.lifetime.toUInt16 :=
      fun mn => ⟨_, List.mem_singleton_self _, rfl, rfl⟩
    rcases hr with htoo | ⟨hunknown, hhome⟩
    · have hnot : ¬ (reply.code = 0 ∨ reply.code = 1) := by
        rw [htoo]
        decide
      simp only [if_neg hnot, if_pos htoo]
      exact hsent _
    · have hnot : ¬ (reply.code = 0 ∨ reply.code = 1) := by
        rw [hunknown]
        decide
      have htoo : ¬ reply.code = 69 := by
        rw [hunknown]
        decide
      simp only [if_neg hnot, if_neg htoo, if_pos hunknown, hhome, if_true]
      exact hsent _

theorem runTimer_renews (hr : Renews mn.connection (RequestList.decreaseLifetime mn.requests))
    (ctx : ℕ → SendContext) : ∃ e ∈ (mn.runTimer ctx).2,
      e.destination = mn.connection.agentAddress ∧
        e.requestedLifetime = some mn.connection.lifetime.toUInt16 := by
  obtain ⟨ctx', heq⟩ := mn.runTimer_eq ctx
  have hrenew := renewConnection_renews (renews_resent.2 hr : Renews (mn.resent ctx).1.connection _)
    ctx'
  rw [resent_connection] at hrenew
  rw [heq, hrenew]
  exact ⟨_, List.mem_append_right _ (List.mem_singleton_self _), rfl, rfl⟩

theorem RegistersHome.emits {e : MNEvent} {out : List Emission} (h : mn.RegistersHome e)
    (hs : mn.step e = .ok (mn', out)) :
    ∃ m ∈ out, m.destination = mn.homeAgentPrivateAddress ∧ m.requestedLifetime ≠ some 0 := by
  have hasks : ∀ {destination lifetime}, (∃ m ∈ out, m.destination = destination ∧
      m.requestedLifetime = some lifetime) → destination = mn.homeAgentPrivateAddress →
      lifetime ≠ 0 → ∃ m ∈ out, m.destination = mn.homeAgentPrivateAddress ∧
        m.requestedLifetime ≠ some 0 := by
    intro destination lifetime hout ha hl
    obtain ⟨m, hm, hd, hlife⟩ := hout
    refine ⟨m, hm, hd.trans ha, ?_⟩
    rw [hlife]
    exact fun heq => hl (Option.some.inj heq)
  cases h with
  | @renewal ctx hr ha hl =>
    have hout := runTimer_renews hr ctx
    rw [Except.ok.inj hs] at hout
    exact hasks hout ha hl
  | @retry ctx p reply hp hreads hv hr ha hl =>
    have hout := processReply_retries (checkReplyValidity_mem hv) hr ctx
    simp only [step, push, hp, ne_eq, not_true_eq_false, if_false, hreads, receiveReply, hv] at hs
    rw [Except.ok.inj hs] at hout
    exact hasks hout ha hl

def SparesHome (home destination : IPAddress) (lifetime : UInt16) : Prop :=
  destination = home → lifetime = 0

theorem sparesHome_step {e : MNEvent} {out : List Emission} (hs : mn.step e = .ok (mn', out))
    (h : ∀ it ∈ mn.requests,
      SparesHome mn.homeAgentPrivateAddress it.destination it.requestedLifetime.toUInt16)
    (hno : ¬ mn.RegistersHome e) : Sends (SparesHome mn.homeAgentPrivateAddress) (mn', out) := by
  cases e with
  | reregister ctx address careOfAddress lifetime =>
    rw [← Except.ok.inj hs]
    exact reregister_sends h ctx address careOfAddress lifetime (fun _ _ => rfl)
      (fun hne heq => absurd heq.symm hne)
  | push ctx p =>
    rcases push_cases hs with ⟨rfl, rfl⟩ | ⟨reply, hp, hreads, hv, heq⟩
    · exact sends_nil h
    · rw [← heq]
      refine processReply_sends h (fun hr _ ha => ?_) ctx
      by_contra hl
      exact hno (.retry hp hreads hv hr ha hl)
  | runTimer ctx =>
    rw [← Except.ok.inj hs]
    refine runTimer_sends h (fun hr ha => ?_) ctx
    by_contra hl
    exact hno (.renewal hr ha hl)
  | requestTimeout value =>
    rw [← Except.ok.inj hs]
    exact sends_nil h

end MobileIPNode

namespace MobileHost

variable {h h₀ : MobileHost}

def RegistersHome (x : Machine.Entry MobileHost HostEvent Emission) : Prop :=
  ∃ e, x.event.Causes e ∧ x.before.MN.RegistersHome e

def Spares (h : MobileHost) : Prop :=
  ∀ it ∈ h.MN.requests, MobileIPNode.SparesHome h.MN.homeAgentPrivateAddress it.destination
    it.requestedLifetime.toUInt16

theorem spares_step {x : Machine.Entry MobileHost HostEvent Emission}
    (hx : x.before.step x.event = .ok (x.after, x.out)) (hno : ¬ RegistersHome x)
    (h : x.before.Spares) : x.after.Spares ∧ ∀ e ∈ x.out,
      e.destination = x.before.MN.homeAgentPrivateAddress → e.requestedLifetime = some 0 := by
  rcases step_node hx with ⟨hMN, hout⟩ | ⟨e, hc, hs⟩
  · rw [Spares, hMN, hout]
    exact ⟨h, by simp⟩
  · have hsends := MobileIPNode.sparesHome_step hs h fun hr => hno ⟨e, hc, hr⟩
    have hsame := (MobileIPNode.sameSetup_step hs).homeAgentPrivateAddress
    refine ⟨?_, ?_⟩
    · rw [Spares, hsame]
      exact hsends.requests
    · intro m hm hd
      obtain ⟨l, hl, hspares⟩ := hsends.out m hm
      rw [hl, hspares hd]

/-- In a run from a state with nothing pending, all that is sent to the home agent asks for lifetime
0, exactly if no tick renews a connection with it and no reply of it is answered with a second
try. -/
theorem home_requests_deregister_iff {tr : Machine.Trace MobileHost HostEvent Emission}
    (h0 : h₀.MN.requests = []) (hrun : Machine.Run MobileHost.step h₀ tr h) :
    (∀ x ∈ tr, ∀ e ∈ x.out, e.destination = x.before.MN.homeAgentPrivateAddress →
      e.requestedLifetime = some 0) ↔ ∀ x ∈ tr, ¬ RegistersHome x := by
  constructor
  · intro hall x hx hbad
    obtain ⟨e, hc, hr⟩ := hbad
    obtain ⟨m, hm, hd, hl⟩ :=
      hr.emits (step_of_causes (hrun.step_mem x hx) hc hr.isReregister)
    exact hl (hall x hx m hm hd)
  · intro hno
    have hstart : h₀.Spares := by simp [Spares, h0]
    have hafter := Machine.Run.invariant_after_of hstart
      (fun x hx hC hI => (spares_step hx hC hI).1) hrun hno
    have hbefore := (Machine.Run.before_of_after hstart hrun hafter).1
    exact fun x hx => (spares_step (hrun.step_mem x hx) (hno x hx) (hbefore x hx)).2

section Examples

open Definitions

def shortAdvertisement : Packet :=
  etherEncap (ICMPIPfy (buildRouterAdvertisementMessage 30 2 homeAgentPublicAddress 1 true false)
    homeAgentPrivateAddress .broadcast 1) .zero .zero

theorem short_reads : Reads shortAdvertisement
    { advertisementRead homeAgentPrivateAddress homeAgentPublicAddress true with
      registrationLifetime := 2 } := ⟨by decide +kernel, by decide +kernel⟩

def grantFromAgent : Datagram RegistrationReplyPacket :=
  UDPIPfy (buildRegistrationReplyPacket ⟨0, 0⟩ 1800 0 mobileNodeAddress homeAgentPublicAddress 1)
    foreignAgentPrivateAddress 434 mobileNodeAddress 5241 1

/-- The host hears its home agent, moves to a foreign agent, is registered there, and comes home. -/
def roundTrip : List HostEvent :=
  [advertisementArrives 0 (advertisementFrom homeAgentPrivateAddress homeAgentPublicAddress true),
    .lifetimeExpired,
    advertisementArrives 40000
      (advertisementFrom foreignAgentPrivateAddress foreignAgentPublicAddress false),
    .push (sendAt 2) (grantFromAgent.packet RegistrationReplyPacket.bytes),
    advertisementArrives 45000 shortAdvertisement]

theorem roundTrip_readable {x : Machine.Entry MobileHost HostEvent Emission}
    (hx : x.event ∈ roundTrip ++ [.runTimer fun _ => sendAt 3]) : ReadableStep x := by
  simp only [roundTrip, List.cons_append, List.nil_append, List.mem_cons, List.not_mem_nil,
    or_false] at hx
  rcases hx with hx | hx | hx | hx | hx | hx
  · exact readableStep_of_reads home_reads hx
  · intro _ _ _ _ hev
    cases hx.symm.trans hev
  · exact readableStep_of_reads foreign_reads hx
  · intro _ _ _ _ hev
    cases hx.symm.trans hev
  · exact readableStep_of_reads short_reads hx
  · intro _ _ _ _ hev
    cases hx.symm.trans hev

/-- The reply to the deregistration is lost, and the next tick registers with the home agent. -/
theorem home_registered_by_tick :
    ¬ ∀ tr h, Machine.Run MobileHost.step mobileHost tr h → (∀ x ∈ tr, ReadableStep x) →
      ∀ x ∈ tr, ∀ e ∈ x.out, e.destination = x.before.MN.homeAgentPrivateAddress →
        e.requestedLifetime = some 0 := by
  intro hall
  have hout := hall _ _ (Machine.Run.of_exec mobileHost
    (roundTrip ++ [.runTimer fun _ => sendAt 3]))
    fun x hx => roundTrip_readable (Machine.event_mem_of_exec hx)
  exact absurd hout (by decide +kernel)

/-- Up to that tick the home agent is asked for lifetime 0. -/
theorem home_requests_deregister_round_trip :
    ∃ tr h, Machine.Run MobileHost.step mobileHost tr h ∧
      (∃ e ∈ Machine.Trace.outputs tr, e.destination = homeAgentPrivateAddress) ∧
      ∀ x ∈ tr, ∀ e ∈ x.out, e.destination = x.before.MN.homeAgentPrivateAddress →
        e.requestedLifetime = some 0 := by
  have hrun : Machine.Run MobileHost.step mobileHost _ _ := .of_exec mobileHost roundTrip
  refine ⟨_, _, hrun, by decide +kernel, (home_requests_deregister_iff rfl hrun).2 ?_⟩
  intro x hx hbad
  obtain ⟨e, hc, hr⟩ := hbad
  have hev := Machine.event_mem_of_exec hx
  simp only [roundTrip, advertisementArrives, List.mem_cons, List.not_mem_nil, or_false] at hev
  rcases hev with hev | hev | hev | hev | hev
  · rw [hev] at hc
    cases hc
    cases hr
  · rw [hev] at hc
    cases hc
  · rw [hev] at hc
    cases hc
    cases hr
  · rw [hev] at hc
    cases hc
    cases hr with
    | retry _ hreads _ hretries _ _ =>
      have hgrant : (processRegistrationReplyPacket
          (grantFromAgent.packet RegistrationReplyPacket.bytes)).1 = .ok grantFromAgent.reply := by
        decide +kernel
      obtain rfl := Except.ok.inj (hgrant.symm.trans hreads)
      rcases hretries with hcode | hcode
      · exact absurd hcode (by decide)
      · exact absurd hcode.1 (by decide)
  · rw [hev] at hc
    cases hc
    cases hr

end Examples

end MobileHost

end MobileIP
