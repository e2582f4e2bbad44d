import MobileIP.Proofs.Node

/-! What the mobile node makes of the lifetime it is granted: the time that it counts down, and when
it asks again. -/

namespace MobileIP

namespace MobileIPNode

variable {mn mn₀ : MobileIPNode} {reply : RegistrationReply} {request : RequestListItem}
  {rest : RequestList}

theorem le_sub_abs_sub {granted requested : UInt32} (h : granted.toNat ≤ requested.toNat) :
    granted.toNat ≤ (requested - abs (granted - requested)).toNat := by
  have := requested.toNat_lt
  rw [toNat_lifetimeLeft]
  split_ifs <;> omega

/-- The lifetime left if more is granted than was requested: the surplus is subtracted, modulo
`2 ^ 32`. -/
theorem toNat_sub_abs_sub {granted requested : UInt32} (h : requested.toNat < granted.toNat)
    (hg : granted.toNat ≤ 65535) : (requested - abs (granted - requested)).toNat =
      (4294967296 + 2 * requested.toNat - granted.toNat) % 4294967296 := by
  rw [toNat_lifetimeLeft]
  split_ifs <;> omega

theorem processReply_accept (hremove : RequestList.remove reply.identification mn.requests =
    .ok (request, rest)) (hcode : reply.code = 0 ∨ reply.code = 1) (ctx : SendContext) :
    mn.processReply ctx reply =
      ({ mn with requests := rest, connection := mn.accept reply request }, []) := by
  simp only [processReply, hremove, if_pos hcode]
  rfl

/-- The lifetime left after an accepting reply is bounded by the one requested and by the one
granted, and is the latter if that is the shorter of the two, exactly if no more than twice the
lifetime requested is granted. -/
theorem granted_lifetime_iff (hremove : RequestList.remove reply.identification mn.requests =
      .ok (request, rest)) (hcode : reply.code = 0 ∨ reply.code = 1)
    (hrequested : request.requestedLifetime.toNat ≤ 65535) (hgranted : reply.lifetime.toNat ≤ 65535)
    (ctx : SendContext) :
    ((mn.processReply ctx reply).1.connection.remainingLifetime ≤ request.requestedLifetime ∧
      (mn.processReply ctx reply).1.connection.remainingLifetime ≤ reply.lifetime ∧
      (reply.lifetime ≤ request.requestedLifetime →
        (mn.processReply ctx reply).1.connection.remainingLifetime = reply.lifetime)) ↔
      reply.lifetime.toNat ≤ 2 * request.requestedLifetime.toNat := by
  have hleft : (mn.processReply ctx reply).1.connection.remainingLifetime =
      request.requestedLifetime - abs (reply.lifetime - request.requestedLifetime) := by
    rw [processReply_accept hremove hcode]
    rfl
  rw [hleft]
  by_cases hle : reply.lifetime.toNat ≤ request.requestedLifetime.toNat
  · rw [sub_abs_sub hle hrequested]
    exact iff_of_true ⟨UInt32.le_iff_toNat_le.2 hle, UInt32.le_iff_toNat_le.2 le_rfl, fun _ => rfl⟩
      (by omega)
  · have hvalue := toNat_sub_abs_sub (not_le.1 hle) hgranted
    have hvacuous : ¬ reply.lifetime ≤ request.requestedLifetime :=
      fun h => hle (UInt32.le_iff_toNat_le.1 h)
    rw [UInt32.le_iff_toNat_le, UInt32.le_iff_toNat_le, hvalue]
    constructor
    · intro h
      obtain ⟨hbound, -⟩ := h
      omega
    · intro h
      exact ⟨by omega, by omega, fun h' => absurd h' hvacuous⟩

section Examples

open Definitions

def registering : MobileIPNode :=
  (mobileNode.reregister (sendAt 7) foreignAgentPrivateAddress foreignAgentPublicAddress 100).1

theorem granted_lifetime_half :
    (registering.processReply (sendAt 8) (replyFrom 50 7).reply).1.connection.remainingLifetime =
      50 := by
  have hremove : RequestList.remove (replyFrom 50 7).reply.identification registering.requests =
      .ok (sentItem (sendAt 7) foreignAgentPrivateAddress foreignAgentPublicAddress 100, []) := by
    decide
  exact ((granted_lifetime_iff hremove (Or.inl rfl) (by decide) (by decide) (sendAt 8)).2
    (by decide)).2.2 (by decide)

/-- A lifetime three times as long as the one requested leaves the node with more than four billion
seconds. -/
theorem granted_lifetime_wraps :
    ¬ ∀ (mn : MobileIPNode) reply request rest,
      RequestList.remove reply.identification mn.requests = .ok (request, rest) →
      reply.code = 0 ∨ reply.code = 1 → request.requestedLifetime.toNat ≤ 65535 →
      reply.lifetime.toNat ≤ 65535 → ∀ ctx,
        (mn.processReply ctx reply).1.connection.remainingLifetime ≤ request.requestedLifetime := by
  intro h
  have hbound := h registering (replyFrom 300 7).reply _ _ rfl (Or.inl rfl) (by decide)
    (by decide) (sendAt 8)
  exact absurd hbound (by decide)

end Examples

structure Grants (x : Machine.Entry MobileIPNode MNEvent Emission) (reply : RegistrationReply)
    (request : RequestListItem) : Prop where
  receives : ∃ ctx p, x.event = .push ctx p ∧ getPacketType p = .reply ∧
    (processRegistrationReplyPacket p).1 = .ok reply
  valid : x.before.checkReplyValidity reply = .ok true
  pending : ∃ rest, RequestList.remove reply.identification x.before.requests = .ok (request, rest)
  code : reply.code = 0

theorem Grants.connection {x : Machine.Entry MobileIPNode MNEvent Emission}
    (h : Grants x reply request) (hs : x.before.step x.event = .ok (x.after, x.out)) :
    x.after.connection = x.before.accept reply request := by
  obtain ⟨ctx, p, hev, htype, hread⟩ := h.receives
  obtain ⟨rest, hremove⟩ := h.pending
  rw [hev] at hs
  simp only [step, push, htype, ne_eq, not_true_eq_false, if_false, hread, receiveReply, h.valid,
    processReply_accept hremove (Or.inl h.code)] at hs
  rw [← (Prod.mk.inj (Except.ok.inj hs)).1]

/-- What is known of the connection `n` ticks after a lifetime has been granted. -/
structure Granted (lifetime granted : UInt32) (n : ℕ) (mn : MobileIPNode) : Prop where
  lifetime : mn.connection.lifetime = lifetime
  remaining : granted.toNat ≤ mn.connection.remainingLifetime.toNat + n

theorem Granted.runTimer {lifetime granted : UInt32} {n : ℕ} (h : Granted lifetime granted n mn)
    (ctx : ℕ → SendContext) : Granted lifetime granted (n + 1) (mn.runTimer ctx).1 := by
  have hremaining := h.remaining
  by_cases hlife : mn.connection.lifetime ≠ 65535 ∧ mn.connection.remainingLifetime > 0
  · have hconnection := runTimer_connection mn ctx
    rw [if_pos hlife] at hconnection
    refine ⟨by rw [hconnection]; exact h.lifetime, ?_⟩
    have hpred := toNat_pred (x := mn.connection.remainingLifetime)
      fun h0 => absurd hlife.2 (by rw [h0]; decide)
    rw [hconnection]
    change _ ≤ (mn.connection.remainingLifetime - 1).toNat + (n + 1)
    omega
  · have hconnection := runTimer_connection mn ctx
    rw [if_neg hlife] at hconnection
    refine ⟨by rw [hconnection]; exact h.lifetime, ?_⟩
    rw [hconnection]
    omega

def Undisturbed (x : Machine.Entry MobileIPNode MNEvent Emission) : Prop :=
  (∃ ctx, x.event = .runTimer ctx) ∨ x.after.connection = x.before.connection

theorem Granted.run {lifetime granted : UInt32}
    {tr : Machine.Trace MobileIPNode MNEvent Emission} (h : Granted lifetime granted 0 mn₀)
    (hrun : Machine.Run MobileIPNode.step mn₀ tr mn) (htr : ∀ x ∈ tr, Undisturbed x) :
    Granted lifetime granted (ticks tr) mn := by
  refine hrun.counting (P := Granted lifetime granted) h ?_ htr
  intro x n hs hx hgranted
  rcases hx with ⟨ctx, hev⟩ | hsame
  · rw [hev] at hs
    have hafter : (x.before.runTimer ctx).1 = x.after := congrArg Prod.fst (Except.ok.inj hs)
    rw [hev, ← hafter]
    exact hgranted.runTimer ctx
  · refine ⟨by rw [hsame]; exact hgranted.lifetime, ?_⟩
    rw [hsame]
    exact hgranted.remaining.trans (by omega)

/-- A node that has been granted a lifetime no longer than it has asked for does not ask again
before what is left of it is half the lifetime of the connection: all that it sends on a tick are
requests that have timed out. -/
theorem renewal_waits {tr : Machine.Trace MobileIPNode MNEvent Emission}
    (hrun : Machine.Run MobileIPNode.step mn₀ tr mn)
    {pre mid post : Machine.Trace MobileIPNode MNEvent Emission}
    {x y : Machine.Entry MobileIPNode MNEvent Emission} (htr : tr = pre ++ x :: (mid ++ y :: post))
    (hgrants : Grants x reply request) (hle : reply.lifetime ≤ request.requestedLifetime)
    (hmid : ∀ z ∈ mid, Undisturbed z) {ctx : ℕ → SendContext} (hy : y.event = .runTimer ctx)
    (hearly : x.before.connection.lifetime = 65535 ∨
      ticks mid + 1 + x.before.connection.lifetime.toNat / 2 < reply.lifetime.toNat) :
    y.out = (y.before.resent ctx).2 := by
  have hgranted : Granted x.before.connection.lifetime reply.lifetime 0 x.after := by
    have hconnection := hgrants.connection (hrun.step_mem x (by simp [htr]))
    refine ⟨by rw [hconnection]; rfl, ?_⟩
    rw [hconnection]
    exact le_sub_abs_sub (UInt32.le_iff_toNat_le.1 hle)
  have hafter := hrun.from_entry pre x _ htr
  have hbefore := hgranted.run (hafter.to_entry mid y post rfl) hmid
  have hidle : ¬ Renews y.before.connection (RequestList.decreaseLifetime y.before.requests) := by
    intro hrenews
    have hremaining := hbefore.remaining
    have hhalf := hrenews.half
    have hpred := toNat_pred (x := y.before.connection.remainingLifetime)
      fun h0 => absurd hrenews.alive (by rw [h0]; decide)
    rw [hpred, hbefore.lifetime] at hhalf
    rcases hearly with hinfinite | hearly
    · exact hrenews.finite (hbefore.lifetime.trans hinfinite)
    · omega
  obtain ⟨ctx', heq⟩ := y.before.runTimer_eq ctx
  have hs := hrun.step_mem y (by simp [htr])
  rw [hy] at hs
  have hout : (y.before.runTimer ctx).2 = y.out := congrArg Prod.snd (Except.ok.inj hs)
  rw [← hout, heq, renewConnection_idle (fun h => hidle (renews_resent.1 h)), List.append_nil]

section Examples

open Definitions

def grantOf (lifetime : UInt32) : Datagram RegistrationReplyPacket :=
  UDPIPfy (buildRegistrationReplyPacket ⟨0, 0⟩ lifetime 0 mobileNodeAddress
    Definitions.homeAgentPublicAddress 7)
    foreignAgentPrivateAddress 434 mobileNodeAddress 5241 1

def grantArrives (lifetime : UInt32) : MNEvent :=
  .push (sendAt 8) ((grantOf lifetime).packet RegistrationReplyPacket.bytes)

def grantedNode (lifetime : UInt32) : MobileIPNode :=
  { registering with
    requests := []
    connection := { registering.connection with remainingLifetime := lifetime, isHome := false } }

theorem run_grantedNode (lifetime : UInt32)
    (hs : registering.step (grantArrives lifetime) = .ok (grantedNode lifetime, [])) :
    Machine.Run MobileIPNode.step mobileNode
      [⟨mobileNode, .reregister (sendAt 7) foreignAgentPrivateAddress foreignAgentPublicAddress 100,
        (mobileNode.reregister (sendAt 7) foreignAgentPrivateAddress foreignAgentPublicAddress
          100).2, registering⟩,
        ⟨registering, grantArrives lifetime, [], grantedNode lifetime⟩] (grantedNode lifetime) :=
  (Machine.Run.nil.snoc rfl).snoc hs

theorem grants_grantOf (lifetime : UInt32)
    (htype : getPacketType ((grantOf lifetime).packet RegistrationReplyPacket.bytes) = .reply)
    (hread : (processRegistrationReplyPacket
      ((grantOf lifetime).packet RegistrationReplyPacket.bytes)).1 = .ok (grantOf lifetime).reply)
    (hvalid : registering.checkReplyValidity (grantOf lifetime).reply = .ok true) :
    Grants ⟨registering, grantArrives lifetime, [], grantedNode lifetime⟩ (grantOf lifetime).reply
      (sentItem (sendAt 7) foreignAgentPrivateAddress foreignAgentPublicAddress 100) :=
  ⟨⟨_, _, rfl, htype, hread⟩, hvalid, ⟨_, rfl⟩, rfl⟩

theorem renewal_waits_ninety : ((grantedNode 90).runTimer fun _ => sendAt 9).2 =
    ((grantedNode 90).resent fun _ => sendAt 9).2 := by
  have hrun := run_grantedNode 90 (by decide +kernel)
  have htick : (grantedNode 90).step (.runTimer fun _ => sendAt 9) =
    .ok ((grantedNode 90).runTimer fun _ => sendAt 9) := rfl
  exact renewal_waits (hrun.snoc htick) (show _ = [_] ++ _ :: ([] ++ _ :: []) from rfl)
    (grants_grantOf 90 (by decide +kernel) (by decide +kernel) (by decide +kernel)) (by decide)
    (fun _ h => absurd h List.not_mem_nil) rfl (Or.inr (by decide))

/-- A node that has asked for a hundred seconds and has been granted ten asks again on the first
tick. -/
theorem renewal_before_half : ¬ ∀ (tr : Machine.Trace MobileIPNode MNEvent Emission)
    (mn : MobileIPNode), Machine.Run MobileIPNode.step mobileNode tr mn →
    ∀ pre x mid y post reply request, tr = pre ++ x :: (mid ++ y :: post) →
      Grants x reply request → x.after.connection.isHome = false → 2 ≤ reply.lifetime.toNat →
      reply.lifetime.toNat < 65535 → reply.lifetime ≤ request.requestedLifetime →
      (∀ z ∈ mid, Undisturbed z) → ∀ ctx, y.event = .runTimer ctx →
      ticks mid + 1 ≤ (reply.lifetime.toNat + 1) / 2 - 1 → y.out = (y.before.resent ctx).2 := by
  intro h
  have hrun := run_grantedNode 10 (by decide +kernel)
  have htick : (grantedNode 10).step (.runTimer fun _ => sendAt 9) =
    .ok ((grantedNode 10).runTimer fun _ => sendAt 9) := rfl
  have hsilent := h _ _ (hrun.snoc htick) [_] _ [] _ [] _ _ rfl
    (grants_grantOf 10 (by decide +kernel) (by decide +kernel) (by decide +kernel)) rfl (by decide)
    (by decide) (by decide) (fun _ h => absurd h List.not_mem_nil) _ rfl (by decide)
  exact absurd hsilent (by decide +kernel)

end Examples

end MobileIPNode

end MobileIP
