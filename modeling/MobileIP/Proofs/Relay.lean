import MobileIP.Proofs.ForeignAgent
import MobileIP.Spec.Definitions

/-! What the foreign agent makes of one reply: it is ignored, it is passed on to the node that asked,
or it uses up the request of another. -/

namespace MobileIP

namespace MobileIPForeignAgent

variable {fa : MobileIPForeignAgent} {reply : RegistrationReply} {request : RequestListItem}
  {pre post : RequestList}

theorem answers_of_first (hpending : fa.requests = pre ++ request :: post)
    (hpre : ∀ x ∈ pre, x.identification ≠ reply.identification)
    (hid : request.identification = reply.identification) (hhome : request.rr.home = reply.home)
    (hport : reply.UDP.destinationPort = fa.sourcePort) :
    RequestList.remove reply.identification fa.requests = .ok (request, pre ++ post) ∧
      fa.checkReplyValidity reply request = true := by
  constructor
  · rw [hpending]
    exact RequestList.remove_append_cons hid hpre post
  · simp [checkReplyValidity, hhome, hport]

/-- The reply leaves the foreign agent as it was, so that a reply with the same identification that
is accepted can still come. -/
structure LeavesIntact (fa : MobileIPForeignAgent) (clock : Clock) (reply : RegistrationReply) :
    Prop where
  requests : (fa.relayReply clock reply).1.requests = fa.requests
  visitors : (fa.relayReply clock reply).1.visitors = fa.visitors
  silent : (fa.relayReply clock reply).2 = []
  later : ∀ clock' genuine request, genuine.identification = reply.identification →
    fa.Answers genuine request → ((fa.relayReply clock reply).1.relayReply clock' genuine).2 =
      fa.sendReplyFromHA clock' genuine genuine.home request.rr.UDP.sourcePort

theorem relayReply_of_unknown (h : ∀ q ∈ fa.requests, q.identification ≠ reply.identification)
    (clock : Clock) : fa.relayReply clock reply = (fa, []) := by
  rw [relayReply, RequestList.remove_error_iff.2 h]

/-- A reply whose identification some request waits for takes that request out of the list, whether
it is accepted or not. -/
theorem relayReply_length (h : ∃ q ∈ fa.requests, q.identification = reply.identification)
    (clock : Clock) :
    (fa.relayReply clock reply).1.requests.length + 1 = fa.requests.length := by
  obtain ⟨q, hq, hid⟩ := h
  unfold relayReply
  cases hr : RequestList.remove reply.identification fa.requests with
  | error e =>
    rw [RequestList.remove_error hr] at hr
    exact absurd hid (RequestList.remove_error_iff.1 hr q hq)
  | ok res =>
    obtain ⟨request, rest⟩ := res
    obtain ⟨pre, post, hl, rfl, -⟩ := RequestList.remove_ok hr
    dsimp only
    split_ifs <;> simp [hl, add_assoc]

/-- A reply leaves the foreign agent intact exactly if no pending request has its identification:
also one that fails the check takes out the request it is checked against. -/
theorem reply_leaves_intact_iff (fa : MobileIPForeignAgent) (clock : Clock)
    (reply : RegistrationReply) :
    fa.LeavesIntact clock reply ↔ ∀ q ∈ fa.requests, q.identification ≠ reply.identification := by
  constructor
  · intro hintact q hq hid
    have hlength := relayReply_length ⟨q, hq, hid⟩ clock
    rw [hintact.requests] at hlength
    omega
  · intro hnone
    have heq := relayReply_of_unknown hnone clock
    refine ⟨by rw [heq], by rw [heq], by rw [heq], ?_⟩
    intro clock' genuine request _ hans
    obtain ⟨rest, hr, hc⟩ := hans
    rw [heq, relayReply_of_pending hr hc]

section Examples

open Definitions

/-- A reply for another home address is dropped, and the request of the node with it. -/
theorem rejected_reply_takes_request :
    ¬ ∀ tr fa, Machine.Run MobileIPForeignAgent.step foreignAgent tr fa → ∀ clock reply,
      (∀ request, ¬ fa.Answers reply request) → fa.LeavesIntact clock reply := by
  intro hall
  have hrec : ReceivesRequest (requestArrives (requestFrom 100 7)) ⟨0, 0⟩ 0
      (requestFrom 100 7).request := ⟨_, rfl, by decide +kernel, by decide +kernel⟩
  have hintact := hall _ _ (Machine.Run.nil.snoc (hrec.step foreignAgent)) ⟨0, 0⟩
    { (replyFrom 100 7).reply with home := ⟨192, 168, 2, 9⟩ } ?_
  · exact absurd hintact.requests (by decide)
  · intro request hans
    obtain ⟨hmem, -, hhome, -⟩ := hans.request
    clear hans
    revert request
    decide

end Examples

/-- The reply is sent on to the destination, at the port the request came from, and one pending
request of its home address is used up. -/
structure PassedOn (fa : MobileIPForeignAgent) (clock : Clock) (reply : RegistrationReply)
    (destination : IPAddress) (request : RequestListItem) : Prop where
  relayed : ∃ d, (fa.relayReply clock reply).2 = [⟨0, .reply d⟩] ∧
    d.payload = buildRegistrationReplyPacket clock reply.lifetime reply.code.toUInt8 reply.home
      reply.homeAgent reply.identification ∧
    d.destination = destination ∧ d.destinationPort = request.rr.UDP.sourcePort.toUInt16
  usedUp : ∃ pre it post, fa.requests = pre ++ it :: post ∧ it.rr.home = reply.home ∧
    (fa.relayReply clock reply).1.requests = pre ++ post

theorem passedOn_of_first (hpending : fa.requests = pre ++ request :: post)
    (hpre : ∀ x ∈ pre, x.identification ≠ reply.identification)
    (hid : request.identification = reply.identification) (hhome : request.rr.home = reply.home)
    (hport : reply.UDP.destinationPort = fa.sourcePort) (clock : Clock) :
    fa.PassedOn clock reply (if reply.home = .zero then .broadcast else reply.home) request := by
  obtain ⟨hr, hc⟩ := answers_of_first hpending hpre hid hhome hport
  have heq := relayReply_of_pending hr hc clock
  refine ⟨⟨fa.passedOn clock reply request.rr.UDP.sourcePort, ?_, rfl, rfl, rfl⟩, ?_⟩
  · rw [heq, sendReplyFromHA_eq]
  · exact ⟨pre, request, post, hpending, hhome, by rw [heq]⟩

/-- A reply is passed on to the node where the first pending request with its identification is one
of that node. A node that has no home address yet is sent the reply by broadcast. -/
theorem reply_reaches_request {q : RequestListItem}
    (hfirst : fa.requests.find? (fun it => decide (it.identification = reply.identification)) =
      some q) (hhome : q.rr.home = reply.home)
    (hport : reply.UDP.destinationPort = fa.sourcePort) (clock : Clock) :
    fa.PassedOn clock reply (if reply.home = .zero then .broadcast else reply.home) q := by
  obtain ⟨hid, pre, post, hpending, hpre⟩ := List.find?_eq_some_iff_append.1 hfirst
  exact passedOn_of_first hpending (by simpa using hpre) (by simpa using hid) hhome hport clock

section Examples

open Definitions

def requestOf (home : IPAddress) : Datagram RegistrationRequestPacket :=
  { requestFrom 100 7 with payload := { (requestFrom 100 7).payload with homeAddress := home } }

def pendingFor (homes : List IPAddress) : MobileIPForeignAgent :=
  homes.foldl (fun fa home => (fa.relayRequest ⟨0, 0⟩ 0 (requestOf home).request).1) foreignAgent

theorem pendingFor_reachable (homes : List IPAddress)
    (hrec : ∀ home ∈ homes, ReceivesRequest (requestArrives (requestOf home)) ⟨0, 0⟩ 0
      (requestOf home).request) :
    ∃ tr, Machine.Run MobileIPForeignAgent.step foreignAgent tr (pendingFor homes) := by
  induction homes using List.reverseRecOn with
  | nil => exact ⟨[], .nil⟩
  | append_singleton homes home ih =>
    obtain ⟨tr, hrun⟩ := ih fun home' hh => hrec home' (by simp [hh])
    have hlast := hrec home (by simp)
    rw [pendingFor, List.foldl_append]
    exact ⟨_, hrun.snoc (hlast.step _)⟩

theorem reply_reaches_request_first :
    (pendingFor [mobileNodeAddress, ⟨192, 168, 2, 9⟩]).PassedOn ⟨0, 0⟩ (replyFrom 100 7).reply
      mobileNodeAddress (foreignAgent.pendingItem 0 (requestOf mobileNodeAddress).request) :=
  reply_reaches_request (by decide) (by decide) (by decide) ⟨0, 0⟩

/-- A node without a home address is sent its reply by broadcast; and where another node has used
the same identification before, no reply goes to the one that asked. -/
theorem reply_misses_request :
    (¬ ∀ tr fa, Machine.Run MobileIPForeignAgent.step foreignAgent tr fa → ∀ clock reply,
      ∀ q ∈ fa.requests, q.identification = reply.identification → q.rr.home = reply.home →
        reply.UDP.destinationPort = fa.sourcePort → reply.home = .zero →
          fa.PassedOn clock reply reply.home q) ∧
    ¬ ∀ tr fa, Machine.Run MobileIPForeignAgent.step foreignAgent tr fa → ∀ clock reply,
      ∀ q ∈ fa.requests, q.identification = reply.identification → q.rr.home = reply.home →
        reply.UDP.destinationPort = fa.sourcePort → reply.home ≠ .zero →
          fa.PassedOn clock reply reply.home q := by
  have hrec : ∀ home ∈ [.zero, ⟨192, 168, 2, 9⟩, mobileNodeAddress],
      ReceivesRequest (requestArrives (requestOf home)) ⟨0, 0⟩ 0 (requestOf home).request := by
    intro home hhome
    refine ⟨_, rfl, ?_, ?_⟩
    · revert home
      decide +kernel
    · revert home
      decide +kernel
  refine ⟨fun hall => ?_, fun hall => ?_⟩
  · obtain ⟨tr, hrun⟩ := pendingFor_reachable [.zero] fun home hh => hrec home (by simp_all)
    obtain ⟨d, hout, -, hdest, -⟩ := (hall tr _ hrun ⟨0, 0⟩
      { (replyFrom 100 7).reply with home := .zero }
      (foreignAgent.pendingItem 0 (requestOf .zero).request) (by decide) rfl rfl rfl rfl).relayed
    have hbroadcast : ((pendingFor [.zero]).relayReply ⟨0, 0⟩
        { (replyFrom 100 7).reply with home := .zero }).2.map Emission.destination =
          [.broadcast] := by decide
    rw [hout] at hbroadcast
    exact absurd (hdest.symm.trans (List.singleton_inj.1 hbroadcast)) (by decide)
  · obtain ⟨tr, hrun⟩ := pendingFor_reachable [⟨192, 168, 2, 9⟩, mobileNodeAddress]
      fun home hh => hrec home (by simp_all)
    obtain ⟨d, hout, -⟩ := (hall tr _ hrun ⟨0, 0⟩ (replyFrom 100 7).reply
      (foreignAgent.pendingItem 0 (requestOf mobileNodeAddress).request) (by decide) rfl rfl rfl
      (by decide)).relayed
    have hsilent : ((pendingFor [⟨192, 168, 2, 9⟩, mobileNodeAddress]).relayReply ⟨0, 0⟩
        (replyFrom 100 7).reply).2 = [] := by decide
    rw [hout] at hsilent
    cases hsilent

end Examples

end MobileIPForeignAgent

end MobileIP
