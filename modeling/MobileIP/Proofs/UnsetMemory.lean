import MobileIP.Proofs.UnsetFields

/-! When the fields that the node leaves unset are not observed: a request that is not answered
waits until it is resent. -/

namespace MobileIP

namespace MobileIPNode

variable (rr : RegistrationRequest) {mn : MobileIPNode} {it : RequestListItem} {n : ℕ}

def Unanswered (i : UInt32) (e : MNEvent) : Prop :=
  ∀ ctx p reply, e = .push ctx p → getPacketType p = .reply →
    (processRegistrationReplyPacket p).1 = .ok reply → reply.identification ≠ i

/-- The request is sent once more, in one of the calls of `sendRequest` that the tick makes. -/
def Resends (mn : MobileIPNode) (ctx : ℕ → SendContext) (it : RequestListItem)
    (out : List Emission) : Prop :=
  ∃ i, (mn.sendRequest (ctx i) it.destination it.careOfAddress it.requestedLifetime it.ttl).2 ⊆ out

structure Same (it it' : RequestListItem) : Prop where
  destination : it'.destination = it.destination
  careOfAddress : it'.careOfAddress = it.careOfAddress
  identification : it'.identification = it.identification
  requestedLifetime : it'.requestedLifetime = it.requestedLifetime
  ttl : it'.ttl = it.ttl

def Waits (it : RequestListItem) (n : ℕ) (mn : MobileIPNode) : Prop :=
  ∃ it' ∈ mn.requests, Same it it' ∧ it'.waitingTime.toNat = n

theorem Waits.mono {mn' : MobileIPNode} (h : Waits it n mn)
    (hmem : ∀ it' ∈ mn.requests, it'.identification = it.identification → it' ∈ mn'.requests) :
    Waits it n mn' := by
  obtain ⟨it', hit', hsame, hn⟩ := h
  exact ⟨it', hmem it' hit' hsame.identification, hsame, hn⟩

theorem sendRequest_subset (mn : MobileIPNode) (ctx : SendContext)
    (destination careOfAddress : IPAddress) (lifetime ttl : UInt32) :
    mn.requests ⊆ (mn.sendRequest ctx destination careOfAddress lifetime ttl).1.requests :=
  List.subset_append_left _ _

theorem reregister_subset (mn : MobileIPNode) (ctx : SendContext)
    (address careOfAddress : IPAddress) (lifetime : UInt32) :
    mn.requests ⊆ (mn.reregister ctx address careOfAddress lifetime).1.requests := by
  unfold reregister
  split_ifs <;> exact sendRequest_subset mn ctx _ _ _ _

theorem processReply_mem {ctx : SendContext} {reply : RegistrationReply} (hit : it ∈ mn.requests)
    (hid : it.identification ≠ reply.identification) :
    it ∈ (mn.processReply ctx reply).1.requests := by
  unfold processReply
  cases hr : RequestList.remove reply.identification mn.requests with
  | error e => exact hit
  | ok r =>
    have hrest : it ∈ r.2 := by
      obtain ⟨pre, post, hl, hrest, hid', -⟩ := RequestList.remove_ok hr
      rw [hl] at hit
      rw [hrest]
      rcases List.mem_append.1 hit with h | h
      · exact List.mem_append_left _ h
      · rcases List.mem_cons.1 h with rfl | h
        · exact absurd hid' hid
        · exact List.mem_append_right _ h
    simp only
    split_ifs
    all_goals first
      | exact hrest
      | exact sendRequest_subset _ ctx _ _ _ _ hrest

theorem push_mem {ctx : SendContext} {p : Packet} {mn' : MobileIPNode} {out : List Emission}
    (hu : Unanswered it.identification (.push ctx p)) (hs : mn.push ctx p = .ok (mn', out)) :
    ∀ it' ∈ mn.requests, it'.identification = it.identification → it' ∈ mn'.requests := by
  intro it' hit' hid
  rcases push_cases hs with ⟨rfl, -⟩ | ⟨reply, hp, hreply, -, heq⟩
  · exact hit'
  · have hne := hu ctx p reply rfl hp hreply
    have hmem : it' ∈ (mn.processReply ctx reply).1.requests :=
      processReply_mem hit' (hid ▸ hne.symm)
    rw [heq] at hmem
    exact hmem

theorem resendRequests_subset (mn : MobileIPNode) (ctx : ℕ → SendContext)
    (timedOut : List RequestListItem) :
    mn.requests ⊆ (mn.resendRequests ctx timedOut).1.requests := by
  induction timedOut generalizing mn ctx with
  | nil => exact List.Subset.refl _
  | cons request timedOut ih =>
    exact List.Subset.trans (sendRequest_subset mn (ctx 0) _ _ _ _) (ih _ fun i => ctx (i + 1))

theorem renewConnection_subset (mn : MobileIPNode) (ctx : SendContext) :
    mn.requests ⊆ (mn.renewConnection ctx).1.requests := by
  simp only [renewConnection]
  split_ifs
  · exact sendRequest_subset { mn with connection := { mn.connection with
      remainingLifetime := mn.connection.remainingLifetime - 1 } } ctx _ _ _ _
  · exact List.Subset.refl _
  · exact List.Subset.refl _

theorem resendRequests_mem {timedOut : List RequestListItem} (h : it ∈ timedOut)
    (ctx : ℕ → SendContext) (mn : MobileIPNode) :
    mn.Resends ctx it (mn.resendRequests ctx timedOut).2 := by
  induction timedOut generalizing mn ctx with
  | nil => simp at h
  | cons request timedOut ih =>
    rcases List.mem_cons.1 h with rfl | h
    · exact ⟨0, List.subset_append_left _ _⟩
    · obtain ⟨i, hi⟩ := ih h (fun i => ctx (i + 1)) (mn.sendRequest (ctx 0) request.destination
        request.careOfAddress request.requestedLifetime request.ttl).1
      exact ⟨i + 1, List.Subset.trans hi (List.subset_append_right _ _)⟩

theorem Waits.counted (h : Waits it n mn) (hn : n + 1 < 2 ^ 32)
    (hk : ∀ it ∈ mn.requests, RequestList.countDown it ≠ none) :
    ∃ it' ∈ (RequestList.decreaseLifetime mn.requests).map RequestList.wait, Same it it' ∧
      it'.waitingTime.toNat = n + 1 := by
  obtain ⟨it', hit', hsame, rfl⟩ := h
  obtain ⟨c, hc⟩ := Option.ne_none_iff_exists'.1 (hk it' hit')
  have hmem : c ∈ RequestList.decreaseLifetime mn.requests := by
    rw [RequestList.decreaseLifetime_eq]
    exact List.mem_filterMap.2 ⟨it', hit', hc⟩
  refine ⟨RequestList.wait c, List.mem_map_of_mem hmem, ?_, ?_⟩
  · rcases RequestList.countDown_some hc with ⟨-, rfl⟩ | ⟨-, -, -, rfl⟩ <;>
      exact ⟨hsame.1, hsame.2, hsame.3, hsame.4, hsame.5⟩
  · have hwait : c.waitingTime = it'.waitingTime := by
      rcases RequestList.countDown_some hc with ⟨-, rfl⟩ | ⟨-, -, -, rfl⟩ <;> rfl
    change (c.waitingTime + 1).toNat = _
    rw [hwait, UInt32.toNat_add]
    exact Nat.mod_eq_of_lt hn

theorem Waits.runTimer (h : Waits it n mn) (hn : n + 1 ≤ mn.requestTimeout.toNat)
    (hk : ∀ it ∈ mn.requests, RequestList.countDown it ≠ none) (ctx : ℕ → SendContext) :
    Waits it (n + 1) (mn.runTimer ctx).1 := by
  have hT := mn.requestTimeout.toNat_lt
  obtain ⟨it', hit', hsame, hwait⟩ := h.counted (by omega) hk
  refine ⟨it', ?_, hsame, hwait⟩
  refine renewConnection_subset _ _ (resendRequests_subset _ _ _ ?_)
  rw [RequestList.removeTimedOutRequests_eq]
  refine List.mem_filter.2 ⟨hit', decide_eq_true ?_⟩
  rw [UInt32.le_iff_toNat_le]
  omega

theorem Waits.resends (h : Waits it mn.requestTimeout.toNat mn)
    (hT : mn.requestTimeout.toNat < 2 ^ 32 - 1)
    (hk : ∀ it ∈ mn.requests, RequestList.countDown it ≠ none) (ctx : ℕ → SendContext) :
    mn.Resends ctx it (mn.runTimer ctx).2 := by
  obtain ⟨it', hit', hsame, hwait⟩ := h.counted (by omega) hk
  have hdue : it' ∈ (RequestList.removeTimedOutRequests mn.requestTimeout
      (RequestList.decreaseLifetime mn.requests)).1 := by
    rw [RequestList.removeTimedOutRequests_eq]
    refine List.mem_filter.2 ⟨hit', ?_⟩
    rw [Bool.not_eq_true', decide_eq_false_iff_not, UInt32.le_iff_toNat_le]
    omega
  have hresent : mn.Resends ctx it' (mn.resent ctx).2 := resendRequests_mem hdue ctx { mn with
    requests := (RequestList.removeTimedOutRequests mn.requestTimeout
      (RequestList.decreaseLifetime mn.requests)).2 }
  obtain ⟨i, hi⟩ := hresent
  obtain ⟨ctx', hrun⟩ := mn.runTimer_eq ctx
  rw [hsame.1, hsame.2, hsame.4, hsame.5] at hi
  rw [hrun]
  exact ⟨i, List.Subset.trans hi (List.subset_append_left _ _)⟩

theorem Waits.step {x : Machine.Entry MobileIPNode MNEvent Emission} (h : Waits it n x.before)
    (hx : x.before.step x.event = .ok (x.after, x.out)) (hk : x.before.Keeps x.event)
    (hu : Unanswered it.identification x.event)
    (hn : n + (x.event matches .runTimer _).toNat ≤ x.before.requestTimeout.toNat) :
    Waits it (n + (x.event matches .runTimer _).toNat) x.after := by
  cases hev : x.event with
  | reregister ctx address careOfAddress lifetime =>
    rw [hev] at hx
    obtain ⟨hafter, -⟩ := Prod.mk.inj (Except.ok.inj hx)
    rw [← hafter]
    exact h.mono fun it' hit' _ => reregister_subset _ _ _ _ _ hit'
  | push ctx p =>
    rw [hev] at hx hu
    exact h.mono (push_mem hu hx)
  | runTimer ctx =>
    simp only [hev] at hn
    rw [hev] at hx
    obtain ⟨hafter, -⟩ := Prod.mk.inj (Except.ok.inj hx)
    rw [← hafter]
    exact h.runTimer hn (hk (by rw [hev])) ctx
  | requestTimeout value =>
    rw [hev] at hx
    obtain ⟨hafter, -⟩ := Prod.mk.inj (Except.ok.inj hx)
    rw [← hafter]
    exact h

/-- The stretch of a run in which a request that was just sent waits for its time-out: it ends with
the tick that follows as many ticks as the time-out has seconds. -/
structure WaitsOut (T : UInt32) (it : RequestListItem)
    (mid : Machine.Trace MobileIPNode MNEvent Emission)
    (y : Machine.Entry MobileIPNode MNEvent Emission) : Prop where
  sent : it.waitingTime = 0
  timeout : ∀ x ∈ mid ++ [y], x.before.requestTimeout = T
  unanswered : ∀ x ∈ mid, Unanswered it.identification x.event
  ticks : ticks mid = T.toNat

theorem waitsOut_resends {T : UInt32} (hT : T.toNat < 2 ^ 32 - 1)
    {mid : Machine.Trace MobileIPNode MNEvent Emission}
    {y : Machine.Entry MobileIPNode MNEvent Emission} {s : MobileIPNode}
    (hrun : Machine.Run MobileIPNode.step s mid y.before) (hit : it ∈ s.requests)
    (hw : WaitsOut T it mid y) (hk : ∀ x ∈ mid ++ [y], x.before.Keeps x.event)
    {ctx : ℕ → SendContext} (hy : y.event = .runTimer ctx) :
    y.before.Resends ctx it (y.before.runTimer ctx).2 := by
  have htimeout := hw.timeout
  simp only [List.forall_mem_append, List.forall_mem_singleton] at htimeout hk
  have hstart : Waits it 0 s := ⟨it, hit, ⟨rfl, rfl, rfl, rfl, rfl⟩, by rw [hw.sent]; rfl⟩
  have hwait : ticks mid ≤ T.toNat → Waits it (ticks mid) y.before := by
    refine Machine.Run.counting (P := fun n mn => n ≤ T.toNat → Waits it n mn)
      (C := fun x => x.before.Keeps x.event ∧ Unanswered it.identification x.event ∧
        x.before.requestTimeout = T) (fun _ => hstart) ?_ hrun
      fun x hx => ⟨hk.1 x hx, hw.unanswered x hx, htimeout.1 x hx⟩
    intro x n hx hC ih hn
    obtain ⟨hkeep, hu, hT'⟩ := hC
    exact Waits.step (ih (by omega)) hx hkeep hu (hT' ▸ hn)
  rw [hw.ticks] at hwait
  have hend := hwait le_rfl
  rw [← htimeout.2] at hend hT
  exact hend.resends hT (hk.2 (by rw [hy])) ctx

/-- While no pending request has run out of the lifetime that was never set, at any tick of two runs
that differ in unset values only, the two send the same at each step and have the same
identifications pending; and a request that is not answered is sent once more with the tick after
its time-out. -/
theorem unset_values_not_observed (mn : MobileIPNode) {es es' : List MNEvent}
    (he : es.map (MNEvent.fill rr) = es'.map (MNEvent.fill rr))
    (hk : ∀ x ∈ (Machine.exec MobileIPNode.step mn es).1, x.before.Keeps x.event)
    (hk' : ∀ x ∈ (Machine.exec MobileIPNode.step mn es').1, x.before.Keeps x.event) :
    (Machine.exec MobileIPNode.step mn es).1.map shown =
        (Machine.exec MobileIPNode.step mn es').1.map shown ∧
      ∀ pre x mid y post, (Machine.exec MobileIPNode.step mn es).1 = pre ++ x :: (mid ++ y :: post) →
        ∀ it ∈ x.after.requests, ∀ T : UInt32, T.toNat < 2 ^ 32 - 1 → WaitsOut T it mid y →
          ∀ ctx, y.event = .runTimer ctx → y.before.Resends ctx it y.out := by
  refine ⟨exec_alike rr mn he hk hk', ?_⟩
  intro pre x mid y post htr it hit T hT hw ctx hy
  have hrun : Machine.Run MobileIPNode.step mn _ (Machine.exec MobileIPNode.step mn es).2 :=
    Machine.Run.of_exec mn es
  have hstep := hrun.step_mem y (by simp [htr])
  have hfrom := hrun.from_entry pre x _ htr
  have hkeeps : ∀ z ∈ mid ++ [y], z.before.Keeps z.event := by
    intro z hz
    refine hk z ?_
    rw [htr]
    simp only [List.mem_append, List.mem_cons, List.not_mem_nil, or_false] at hz ⊢
    tauto
  have hresends := waitsOut_resends hT (hfrom.to_entry mid y post rfl) hit hw hkeeps hy
  rw [hy] at hstep
  rw [← (Prod.mk.inj (Except.ok.inj hstep)).2]
  exact hresends

section Examples

open Definitions

def unsetAt (value : UInt32) : SendContext := { sendAt 1 with remainingLifetime := value }

/-- The node registers with the foreign agent, hears nothing, and ticks. -/
def waitingFor (value : UInt32) (n : ℕ) : List MNEvent :=
  .reregister (unsetAt value) foreignAgentPrivateAddress foreignAgentPublicAddress 100 ::
    List.replicate n (.runTimer fun _ => unsetAt value)

theorem waitingFor_fill (value : UInt32) (n : ℕ) (rr : RegistrationRequest) :
    (waitingFor value n).map (MNEvent.fill rr) = (waitingFor 0 n).map (MNEvent.fill rr) := by
  simp only [waitingFor, List.map_cons, List.map_replicate]
  rfl

def hastyNode : MobileIPNode := { mobileNode with requestTimeout := 1 }

/-- With a time-out of one second the values 100 and 200 are both large enough for the request to be
sent once more with the second tick. -/
theorem unset_values_not_observed_resent :
    (Machine.exec MobileIPNode.step hastyNode (waitingFor 100 2)).1.map shown =
        (Machine.exec MobileIPNode.step hastyNode (waitingFor 200 2)).1.map shown ∧
      ∃ y ∈ (Machine.exec MobileIPNode.step hastyNode (waitingFor 100 2)).1,
        y.before.Resends (fun _ => unsetAt 100)
          (sentItem (unsetAt 100) foreignAgentPrivateAddress foreignAgentPublicAddress 100) y.out := by
  obtain ⟨hsame, hresends⟩ := unset_values_not_observed (requestFrom 0 0).request hastyNode
    ((waitingFor_fill 100 2 _).trans (waitingFor_fill 200 2 _).symm) (by decide +kernel)
    (by decide +kernel)
  refine ⟨hsame, ?_⟩
  -- the three steps of the run
  let r₀ := hastyNode.reregister (unsetAt 100) foreignAgentPrivateAddress foreignAgentPublicAddress
    100
  let r₁ := r₀.1.runTimer fun _ => unsetAt 100
  let r₂ := r₁.1.runTimer fun _ => unsetAt 100
  let x : Machine.Entry MobileIPNode MNEvent Emission := ⟨hastyNode, .reregister (unsetAt 100)
    foreignAgentPrivateAddress foreignAgentPublicAddress 100, r₀.2, r₀.1⟩
  let z : Machine.Entry MobileIPNode MNEvent Emission :=
    ⟨r₀.1, .runTimer fun _ => unsetAt 100, r₁.2, r₁.1⟩
  let y : Machine.Entry MobileIPNode MNEvent Emission :=
    ⟨r₁.1, .runTimer fun _ => unsetAt 100, r₂.2, r₂.1⟩
  have htr : (Machine.exec MobileIPNode.step hastyNode (waitingFor 100 2)).1 =
      [] ++ x :: ([z] ++ y :: []) := by
    simp [waitingFor, Machine.exec, MobileIPNode.step, x, y, z, r₀, r₁, r₂]
  have hwaits : WaitsOut 1 (sentItem (unsetAt 100) foreignAgentPrivateAddress
      foreignAgentPublicAddress 100) [z] y := by
    refine ⟨rfl, ?_, ?_, by decide⟩
    · simp only [List.singleton_append, List.forall_mem_cons, List.not_mem_nil, false_imp_iff,
        implies_true, and_true]
      exact ⟨by decide, by decide⟩
    · simp [z, Unanswered]
  refine ⟨y, by simp [htr], ?_⟩
  exact hresends [] x [z] y [] htr _ (List.mem_singleton_self _) 1 (by decide) hwaits _ rfl

/-- With 0 in the unset field the first tick drops the request, and it is not sent once more. -/
theorem unset_zero_drops_request :
    ¬ ∀ es es' rr, es.map (MNEvent.fill rr) = es'.map (MNEvent.fill rr) →
      (Machine.exec MobileIPNode.step mobileNode es).1.map shown =
        (Machine.exec MobileIPNode.step mobileNode es').1.map shown := by
  intro h
  have hsame := h (waitingFor 0 11) (waitingFor 100 11) (requestFrom 0 0).request
    (waitingFor_fill 100 11 _).symm
  have hsent := congrArg (fun l => (l.map fun r => r.1.length).sum) hsame
  exact absurd hsent (by decide +kernel)

end Examples

end MobileIPNode

end MobileIP
