import MobileIP.Lib.Projection
import MobileIP.Proofs.Node
import MobileIP.Proofs.PendingRequests

/-! The two fields of a pending request that the node leaves unset. Two runs that differ in the
values found there are compared after these have been overwritten by one value. -/

namespace MobileIP

def RequestListItem.fill (rr : RegistrationRequest) (it : RequestListItem) : RequestListItem :=
  { it with remainingLifetime := 0, rr := rr }

def SendContext.fill (rr : RegistrationRequest) (ctx : SendContext) : SendContext :=
  { ctx with remainingLifetime := 0, rr := rr }

def MNEvent.fill (rr : RegistrationRequest) : MNEvent → MNEvent
  | .reregister ctx address careOfAddress lifetime =>
    .reregister (ctx.fill rr) address careOfAddress lifetime
  | .push ctx p => .push (ctx.fill rr) p
  | .runTimer ctx => .runTimer fun i => (ctx i).fill rr
  | .requestTimeout value => .requestTimeout value

namespace RequestList

variable (rr : RegistrationRequest)

theorem remove_fill (i : UInt32) (l : RequestList) :
    remove i (l.map (RequestListItem.fill rr)) =
      (remove i l).map fun r => (r.1.fill rr, r.2.map (RequestListItem.fill rr)) := by
  induction l with
  | nil => rfl
  | cons it l ih =>
    simp only [List.map_cons, remove, ih]
    by_cases h : it.identification = i
    · rw [if_pos h, if_pos (show (it.fill rr).identification = i from h)]
      rfl
    · rw [if_neg h, if_neg (show ¬ (it.fill rr).identification = i from h)]
      cases remove i l <;> rfl

theorem has_fill (d c : IPAddress) (l : RequestList) :
    has d c (l.map (RequestListItem.fill rr)) = has d c l := by
  induction l with
  | nil => rfl
  | cons it l ih =>
    simp only [List.map_cons, has, ih]
    rfl

theorem getLastRequest_fill (l : RequestList) :
    getLastRequest (l.map (RequestListItem.fill rr)) =
      (getLastRequest l).map (RequestListItem.fill rr) := by
  simp only [getLastRequest, List.getLast?_map]
  cases l.getLast? <;> rfl

theorem removeTimedOutRequests_fill (seconds : UInt32) (l : RequestList) :
    removeTimedOutRequests seconds (l.map (RequestListItem.fill rr)) =
      ((removeTimedOutRequests seconds l).1.map (RequestListItem.fill rr),
        (removeTimedOutRequests seconds l).2.map (RequestListItem.fill rr)) := by
  simp only [removeTimedOutRequests_eq, List.map_map, List.filter_map]
  rfl

theorem decreaseLifetime_fill {l : RequestList} (h : ∀ it ∈ l, countDown it ≠ none) :
    (decreaseLifetime l).map (RequestListItem.fill rr) = l.map (RequestListItem.fill rr) := by
  rw [decreaseLifetime_eq, List.map_filterMap, ← List.filterMap_eq_map]
  refine List.filterMap_congr fun it hit => ?_
  obtain ⟨c, hc⟩ := Option.ne_none_iff_exists'.1 (h it hit)
  rw [hc]
  rcases countDown_some hc with ⟨-, rfl⟩ | ⟨-, -, -, rfl⟩ <;> rfl

end RequestList

namespace MobileIPNode

variable (rr : RegistrationRequest) (mn : MobileIPNode)

def fill : MobileIPNode := { mn with requests := mn.requests.map (RequestListItem.fill rr) }

@[simp]
theorem fill_connection : (mn.fill rr).connection = mn.connection := rfl

@[simp]
theorem fill_requests : (mn.fill rr).requests = mn.requests.map (RequestListItem.fill rr) := rfl

def fillFst (r : MobileIPNode × List Emission) : MobileIPNode × List Emission := (r.1.fill rr, r.2)

theorem sendRequest_fill (ctx : SendContext) (destination careOfAddress : IPAddress)
    (lifetime ttl : UInt32) :
    (mn.fill rr).sendRequest (ctx.fill rr) destination careOfAddress lifetime ttl =
      fillFst rr (mn.sendRequest ctx destination careOfAddress lifetime ttl) := by
  simp only [sendRequest, fill, fillFst, RequestList.add, List.map_append, List.map_singleton]
  rfl

theorem registerFA_fill (ctx : SendContext) (FAAddress careOfAddress : IPAddress)
    (lifetime : UInt32) :
    (mn.fill rr).registerFA (ctx.fill rr) FAAddress careOfAddress lifetime =
      fillFst rr (mn.registerFA ctx FAAddress careOfAddress lifetime) :=
  mn.sendRequest_fill rr ctx FAAddress careOfAddress lifetime 1

theorem reregister_fill (ctx : SendContext) (address careOfAddress : IPAddress)
    (lifetime : UInt32) :
    (mn.fill rr).reregister (ctx.fill rr) address careOfAddress lifetime =
      fillFst rr (mn.reregister ctx address careOfAddress lifetime) := by
  unfold reregister
  by_cases h : mn.homeAgentPrivateAddress = address
  · have h' : (mn.fill rr).homeAgentPrivateAddress = address := h
    rw [if_pos h, if_pos h', deregister, sendRequest_fill]
    rfl
  · have h' : ¬ (mn.fill rr).homeAgentPrivateAddress = address := h
    rw [if_neg h, if_neg h', registerFA_fill]
    rfl

theorem checkReplyValidity_fill (reply : RegistrationReply) :
    (mn.fill rr).checkReplyValidity reply = mn.checkReplyValidity reply := by
  unfold checkReplyValidity
  rw [fill_requests, RequestList.getLastRequest_fill]
  cases RequestList.getLastRequest mn.requests <;> rfl

theorem processReply_fill (ctx : SendContext) (reply : RegistrationReply) :
    (mn.fill rr).processReply (ctx.fill rr) reply = fillFst rr (mn.processReply ctx reply) := by
  unfold processReply
  rw [fill_requests, RequestList.remove_fill]
  cases RequestList.remove reply.identification mn.requests with
  | error e => rfl
  | ok r =>
    simp only [Except.map, fill_connection]
    split_ifs with _ _ _ hhome
    · rfl
    · exact registerFA_fill rr { mn with
        connection := { mn.connection with lifetime := reply.lifetime }, requests := r.2 } ctx _ _ _
    · refine (if_pos hhome).trans ?_
      exact registerFA_fill rr { mn with
        homeAgentPublicAddress := reply.homeAgent, requests := r.2 } ctx _ _ _
    · exact if_neg hhome
    · rfl

theorem push_fill (ctx : SendContext) (p : Packet) :
    (mn.fill rr).push (ctx.fill rr) p = (mn.push ctx p).map (fillFst rr) := by
  unfold push
  split_ifs
  · rfl
  · split
    · rfl
    · rfl
    · unfold receiveReply
      rw [checkReplyValidity_fill]
      split
      · rfl
      · rw [processReply_fill]
        rfl
      · rfl

theorem resendRequests_fill (ctx : ℕ → SendContext) (timedOut : List RequestListItem) :
    (mn.fill rr).resendRequests (fun i => (ctx i).fill rr)
        (timedOut.map (RequestListItem.fill rr)) =
      fillFst rr (mn.resendRequests ctx timedOut) := by
  induction timedOut generalizing mn ctx with
  | nil => rfl
  | cons request timedOut ih =>
    have hsend := mn.sendRequest_fill rr (ctx 0) request.destination request.careOfAddress
      request.requestedLifetime request.ttl
    simp only [List.map_cons, resendRequests]
    rw [show (mn.fill rr).sendRequest ((ctx 0).fill rr) (request.fill rr).destination
      (request.fill rr).careOfAddress (request.fill rr).requestedLifetime (request.fill rr).ttl = _
      from hsend]
    simp only [fillFst]
    rw [ih]
    rfl

theorem renewConnection_fill (ctx : SendContext) :
    (mn.fill rr).renewConnection (ctx.fill rr) = fillFst rr (mn.renewConnection ctx) := by
  simp only [renewConnection, fill_connection, fill_requests, RequestList.has_fill]
  split_ifs
  · exact registerFA_fill rr { mn with connection := { mn.connection with
      remainingLifetime := mn.connection.remainingLifetime - 1 } } ctx _ _ _
  · rfl
  · rfl

def tickRest (ctx : ℕ → SendContext) : MobileIPNode × List Emission :=
  let (timedOut, requests) := RequestList.removeTimedOutRequests mn.requestTimeout mn.requests
  let (mn, out) := { mn with requests := requests }.resendRequests ctx timedOut
  let (mn, out') := mn.renewConnection (ctx timedOut.length)
  (mn, out ++ out')

theorem runTimer_eq_tickRest (ctx : ℕ → SendContext) : mn.runTimer ctx =
    { mn with requests := RequestList.decreaseLifetime mn.requests }.tickRest ctx := rfl

theorem tickRest_fill (ctx : ℕ → SendContext) :
    (mn.fill rr).tickRest (fun i => (ctx i).fill rr) = fillFst rr (mn.tickRest ctx) := by
  let timedOut := RequestList.removeTimedOutRequests mn.requestTimeout mn.requests
  let rest : MobileIPNode := { mn with requests := timedOut.2 }
  have hpass : RequestList.removeTimedOutRequests (mn.fill rr).requestTimeout (mn.fill rr).requests =
      (timedOut.1.map (RequestListItem.fill rr), timedOut.2.map (RequestListItem.fill rr)) :=
    RequestList.removeTimedOutRequests_fill rr _ _
  have hresend : { mn.fill rr with
      requests := timedOut.2.map (RequestListItem.fill rr) }.resendRequests
        (fun i => (ctx i).fill rr) (timedOut.1.map (RequestListItem.fill rr)) =
      fillFst rr (rest.resendRequests ctx timedOut.1) := resendRequests_fill rr rest ctx timedOut.1
  simp only [tickRest, hpass, hresend, List.length_map, fillFst, renewConnection_fill]
  rfl

/-- The step is no tick, or the first pass of the tick takes out nothing. -/
def Keeps (mn : MobileIPNode) (e : MNEvent) : Prop :=
  (e matches .runTimer _) = true → ∀ it ∈ mn.requests, RequestList.countDown it ≠ none

instance (mn : MobileIPNode) (e : MNEvent) : Decidable (mn.Keeps e) :=
  inferInstanceAs (Decidable (_ = true → ∀ it ∈ mn.requests, RequestList.countDown it ≠ none))

/-- What a tick does and leaves does not depend on the unset values, while its first pass takes out
nothing. -/
theorem runTimer_fill (ctx : ℕ → SendContext)
    (h : ∀ it ∈ mn.requests, RequestList.countDown it ≠ none) :
    fillFst rr (mn.runTimer ctx) = (mn.fill rr).tickRest fun i => (ctx i).fill rr := by
  have hcount := RequestList.decreaseLifetime_fill rr h
  rw [runTimer_eq_tickRest, ← tickRest_fill]
  simp only [fill, hcount]

def stepRest : MNEvent → Except Exception (MobileIPNode × List Emission)
  | .runTimer ctx => .ok (mn.tickRest ctx)
  | e => mn.step e

theorem step_fill {e : MNEvent} (h : mn.Keeps e) :
    (mn.step e).map (fillFst rr) = (mn.fill rr).stepRest (e.fill rr) := by
  cases e with
  | reregister ctx address careOfAddress lifetime =>
    exact congrArg Except.ok (mn.reregister_fill rr ctx address careOfAddress lifetime).symm
  | push ctx p => exact (mn.push_fill rr ctx p).symm
  | runTimer ctx => exact congrArg Except.ok (mn.runTimer_fill rr ctx (h rfl))
  | requestTimeout value => rfl

theorem keeps_of_ok {e : MNEvent} (h : ∀ r, mn.step e = .ok r → mn.Keeps e) : mn.Keeps e := by
  cases e with
  | reregister ctx address careOfAddress lifetime => exact fun hev => absurd hev (by simp)
  | push ctx p => exact fun hev => absurd hev (by simp)
  | runTimer ctx => exact h _ rfl
  | requestTimeout value => exact fun hev => absurd hev (by simp)

theorem step_alike {mn mn' : MobileIPNode} {e e' : MNEvent} (h : mn.fill rr = mn'.fill rr)
    (he : e.fill rr = e'.fill rr) (hk : ∀ r, mn.step e = .ok r → mn.Keeps e)
    (hk' : ∀ r, mn'.step e' = .ok r → mn'.Keeps e') :
    (mn.step e).toOption.map (Prod.map (fill rr) id) =
      (mn'.step e').toOption.map (Prod.map (fill rr) id) := by
  have hstep : (mn.step e).map (fillFst rr) = (mn'.step e').map (fillFst rr) := by
    rw [step_fill rr mn (keeps_of_ok mn hk), step_fill rr mn' (keeps_of_ok mn' hk'), h, he]
  have hopt : ∀ r : Except Exception (MobileIPNode × List Emission),
      r.toOption.map (Prod.map (fill rr) id) = (r.map (fillFst rr)).toOption := by
    intro r
    cases r <;> rfl
  rw [hopt, hopt, hstep]

/-- What is seen of a step: the requests sent, and the identifications that are pending after it. -/
def shown (x : Machine.Entry MobileIPNode MNEvent Emission) : List Emission × List UInt32 :=
  (x.out, x.after.requests.map RequestListItem.identification)

theorem exec_alike {es es' : List MNEvent} (he : es.map (MNEvent.fill rr) = es'.map (MNEvent.fill rr))
    (hk : ∀ x ∈ (Machine.exec MobileIPNode.step mn es).1, x.before.Keeps x.event)
    (hk' : ∀ x ∈ (Machine.exec MobileIPNode.step mn es').1, x.before.Keeps x.event) :
    (Machine.exec MobileIPNode.step mn es).1.map shown =
      (Machine.exec MobileIPNode.step mn es').1.map shown := by
  have hlock : (Machine.exec MobileIPNode.step mn es).1.map (fun x => (x.out, x.after.fill rr)) =
      (Machine.exec MobileIPNode.step mn es').1.map fun x => (x.out, x.after.fill rr) :=
    Machine.exec_lockstep (fun _ _ _ _ => step_alike rr) rfl he hk hk'
  have hids : ∀ x : Machine.Entry MobileIPNode MNEvent Emission, shown x =
      (x.out, (x.after.fill rr).requests.map RequestListItem.identification) := by
    intro x
    rw [fill_requests, List.map_map]
    rfl
  have hshown := congrArg (List.map fun r : List Emission × MobileIPNode =>
    (r.1, r.2.requests.map RequestListItem.identification)) hlock
  simp only [List.map_map] at hshown
  rw [List.map_congr_left fun x _ => hids x, List.map_congr_left fun x _ => hids x]
  exact hshown

end MobileIPNode

end MobileIP
