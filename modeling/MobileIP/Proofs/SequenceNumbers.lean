import MobileIP.Lib.Numbering
import MobileIP.Lib.Run
import MobileIP.Proofs.Advertisements

/-! The sequence numbers of the advertisements that an agent sends, across its restarts. -/

namespace MobileIP

/-- Where the event makes the advertiser send an advertisement. -/
def AdvertiserEvent.destination : AdvertiserEvent → Option IPAddress
  | .runTimer => some .broadcast
  | .simpleAction p =>
    match (processRouterSolicitationMessage p).1 with
    | .ok r => some r.IP.source
    | .error _ => none
  | _ => none

/-- An advertisement, with the state of the advertiser that sends it, and whether it is the first
one after a restart. -/
structure Sent where
  sender : MobileIPAdvertiser
  destination : IPAddress
  restarted : Bool
deriving DecidableEq, Repr

namespace Sent

def packet (s : Sent) : Packet := (s.sender.sendAdvertisement s.destination).2

def message (s : Sent) : Numbering.Message := ⟨s.sender.sequenceNumber.toNat, s.restarted⟩

def Readable (s : Sent) : Prop := headerSum 48 1 1 s.sender.linkAddress s.destination ≠ 0

instance (s : Sent) : Decidable s.Readable := inferInstanceAs (Decidable (_ ≠ 0))

theorem next_message (s : Sent) (h : Numbering.next 256 65535 s.message.number < 256) :
    Numbering.next 256 65535 s.message.number = s.message.number + 1 := by
  unfold Numbering.next at h ⊢
  split_ifs at h ⊢ <;> omega

end Sent

namespace MobileIPAdvertiser

variable {a a₀ : MobileIPAdvertiser} {x : Machine.Entry MobileIPAdvertiser AdvertiserEvent Packet}
  {tr : Machine.Trace MobileIPAdvertiser AdvertiserEvent Packet}

/-- The advertisements sent in a run, where `r` tells whether the advertiser has restarted since the
one before. -/
def sends : Bool → Machine.Trace MobileIPAdvertiser AdvertiserEvent Packet → List Sent
  | _, [] => []
  | r, x :: tr =>
    match x.event.destination with
    | some destination => ⟨x.before, destination, r⟩ :: sends false tr
    | none => sends (r || x.event matches .restart) tr

theorem step_sends {destination : IPAddress} (hx : x.before.step x.event = .ok (x.after, x.out))
    (hd : x.event.destination = some destination) :
    x.after = (x.before.sendAdvertisement destination).1 ∧
      x.out = [(x.before.sendAdvertisement destination).2] := by
  cases hev : x.event with
  | runTimer =>
    rw [hev] at hx hd
    cases hd
    obtain ⟨hafter, hout⟩ := Prod.mk.inj (Except.ok.inj hx)
    exact ⟨hafter.symm, hout.symm⟩
  | simpleAction p =>
    rw [hev] at hx hd
    simp only [step, simpleAction, AdvertiserEvent.destination] at hx hd
    cases hr : (processRouterSolicitationMessage p).1 with
    | error e => simp [hr] at hd
    | ok r =>
      simp only [hr, Option.some.injEq, Except.ok.injEq, Prod.mk.injEq] at hx hd
      exact ⟨hd ▸ hx.1.symm, hd ▸ hx.2.symm⟩
  | setLifetime seconds => simp [hev, AdvertiserEvent.destination] at hd
  | setRegistrationLifetime value => simp [hev, AdvertiserEvent.destination] at hd
  | restart => simp [hev, AdvertiserEvent.destination] at hd

theorem step_silent (hx : x.before.step x.event = .ok (x.after, x.out))
    (hd : x.event.destination = none) :
    x.after.linkAddress = x.before.linkAddress ∧ x.out = [] ∧ x.after.sequenceNumber =
      if (x.event matches .restart) then 0 else x.before.sequenceNumber := by
  cases hev : x.event with
  | runTimer => simp [hev, AdvertiserEvent.destination] at hd
  | simpleAction p =>
    rw [hev] at hx hd
    simp only [step, simpleAction, AdvertiserEvent.destination] at hx hd
    cases hr : (processRouterSolicitationMessage p).1 with
    | ok r => simp [hr] at hd
    | error e =>
      obtain ⟨_, rfl⟩ | ⟨_, rfl⟩ := (processRouterSolicitationMessage_error hr).cases
      · simp only [hr, Except.ok.injEq, Prod.mk.injEq] at hx
        simp [← hx.1, ← hx.2]
      · simp only [hr, Except.ok.injEq, Prod.mk.injEq] at hx
        simp [← hx.1, ← hx.2]
  | setLifetime seconds =>
    rw [hev] at hx
    obtain ⟨hafter, hout⟩ := Prod.mk.inj (Except.ok.inj hx)
    rw [← hafter, ← hout]
    by_cases hs : seconds < 3
    · rw [changeLifetime, if_pos hs]
      exact ⟨rfl, rfl, rfl⟩
    · rw [changeLifetime, if_neg hs]
      exact ⟨rfl, rfl, rfl⟩
  | setRegistrationLifetime value =>
    rw [hev] at hx
    obtain ⟨hafter, hout⟩ := Prod.mk.inj (Except.ok.inj hx)
    rw [← hafter, ← hout]
    exact ⟨rfl, rfl, rfl⟩
  | restart =>
    rw [hev] at hx
    obtain ⟨hafter, hout⟩ := Prod.mk.inj (Except.ok.inj hx)
    rw [← hafter, ← hout]
    exact ⟨rfl, rfl, rfl⟩

theorem toNat_sequenceNumber (destination : IPAddress) (h : a.sequenceNumber.toNat ≤ 65535) :
    (a.sendAdvertisement destination).1.sequenceNumber.toNat =
      Numbering.next 256 65535 a.sequenceNumber.toNat := by
  change (if a.sequenceNumber = 65535 then (256 : UInt32) else a.sequenceNumber + 1).toNat = _
  have hiff : a.sequenceNumber = 65535 ↔ a.sequenceNumber.toNat = 65535 := by
    rw [← UInt32.toNat_inj]
    rfl
  rw [Numbering.next]
  by_cases hmax : a.sequenceNumber = 65535
  · rw [if_pos hmax, if_pos (hiff.1 hmax)]
    rfl
  · rw [if_neg hmax, if_neg (hmax ∘ hiff.2), UInt32.toNat_add]
    exact Nat.mod_eq_of_lt (by simp; omega)

theorem outputs_eq_sends (hrun : Machine.Run MobileIPAdvertiser.step a₀ tr a) (r : Bool) :
    Machine.Trace.outputs tr = (sends r tr).map Sent.packet := by
  induction tr generalizing a₀ r with
  | nil => rfl
  | cons x tr ih =>
    obtain ⟨-, hx, hrest⟩ := hrun.uncons
    rw [Machine.Trace.outputs, List.flatMap_cons, sends]
    cases hd : x.event.destination with
    | some destination =>
      rw [(step_sends hx hd).2]
      exact congrArg (List.cons _) (ih hrest false)
    | none =>
      rw [(step_silent hx hd).2.1]
      exact ih hrest _

/-- The advertisements of a run are numbered in turn, from 0 after each restart. -/
theorem sends_numbered (hrun : Machine.Run MobileIPAdvertiser.step a₀ tr a) {r : Bool} {n : ℕ}
    (hr : a₀.sequenceNumber.toNat = if r then 0 else n) (hn : n ≤ 65535) :
    Numbering.Numbered 256 65535 n ((sends r tr).map Sent.message) ∧
      ∀ s ∈ sends r tr, s.sender.linkAddress = a₀.linkAddress ∧
        s.sender.sequenceNumber.toNat ≤ 65535 := by
  induction tr generalizing a₀ r n with
  | nil => exact ⟨trivial, by simp [sends]⟩
  | cons x tr ih =>
    obtain ⟨rfl, hx, hrest⟩ := hrun.uncons
    rw [sends]
    have hle : x.before.sequenceNumber.toNat ≤ 65535 := by
      rw [hr]
      split_ifs <;> omega
    cases hd : x.event.destination with
    | some destination =>
      have hafter := (step_sends hx hd).1
      have hnext := toNat_sequenceNumber destination hle
      rw [← hafter] at hnext
      have hle' : Numbering.next 256 65535 x.before.sequenceNumber.toNat ≤ 65535 := by
        unfold Numbering.next
        split_ifs <;> omega
      obtain ⟨hnum, hall⟩ := ih hrest (r := false) hnext hle'
      have hlink : x.after.linkAddress = x.before.linkAddress := by
        rw [hafter]
        rfl
      rw [hlink] at hall
      exact ⟨⟨hr, hnum⟩, List.forall_mem_cons.2 ⟨⟨rfl, hle⟩, hall⟩⟩
    | none =>
      obtain ⟨hlink, -, hseq⟩ := step_silent hx hd
      rw [← hlink]
      refine ih hrest ?_ hn
      rw [hseq]
      cases (x.event matches .restart) with
      | true => simp
      | false => simp [hr]

theorem sends_not_restarted (h : ∀ x ∈ tr, x.event ≠ .restart) :
    ∀ s ∈ sends false tr, s.restarted = false := by
  induction tr with
  | nil => simp [sends]
  | cons x tr ih =>
    rw [List.forall_mem_cons] at h
    have hx : (x.event matches .restart) = false := by
      cases hev : x.event with
      | restart => exact absurd hev h.1
      | runTimer => rfl
      | simpleAction p => rfl
      | setLifetime seconds => rfl
      | setRegistrationLifetime value => rfl
    rw [sends]
    cases x.event.destination with
    | some destination => exact List.forall_mem_cons.2 ⟨rfl, ih h.2⟩
    | none =>
      rw [hx]
      exact ih h.2

end MobileIPAdvertiser

end MobileIP
