import MobileIP.Proofs.BindingLifetimes
import MobileIP.Proofs.Bindings

/-! What the home agent has bound is told by the requests that it has accepted and the time since:
its runs refine the timed map, where a request is one operation on it. -/

namespace MobileIP

open Machine

namespace MobileIPHomeAgent

variable {ha ha₀ : MobileIPHomeAgent} {registration : RegistrationRequest}
  {x : Entry MobileIPHomeAgent HAEvent Emission} {h c : IPAddress}

instance (ha : MobileIPHomeAgent) (registration : RegistrationRequest) :
    Decidable (ha.Admits registration) :=
  decidable_of_iff (registration.UDP.destinationPort = 434 ∧
      (registration.r = false ∧ registration.x = false) ∧
      (registration.D = false ∧ registration.M = false ∧ registration.G = false ∧
        registration.T = false) ∧
      registration.homeAgent = ha.publicAddress ∧
      (registration.IP.destination = ha.privateAddress ∨
        registration.IP.destination = ha.publicAddress))
    ⟨fun ⟨hp, hr, ho, hh, hd⟩ => ⟨hp, hr, ho, hh, hd⟩,
      fun ⟨hp, hr, ho, hh, hd⟩ => ⟨hp, hr, ho, hh, hd⟩⟩

def call (ha : MobileIPHomeAgent) (registration : RegistrationRequest) : BindingOp :=
  if registration.lifetime = 0 then
    if registration.careOf = registration.home then .removeAll registration.home
    else .remove registration.home registration.careOf
  else .add registration.home registration.careOf (ha.lifetimeGranted registration)

theorem apply_call (ha : MobileIPHomeAgent) (registration : RegistrationRequest) :
    (ha.call registration).apply ha.mobilityBindings = ha.bindingsAfter registration := by
  unfold call bindingsAfter
  split_ifs
  · rfl
  · rfl
  · rfl

def calls (x : Entry MobileIPHomeAgent HAEvent Emission) : Option BindingOp :=
  match x.event with
  | .push _ _ p =>
    match (processRegistrationRequestPacket p).1 with
    | .error _ => none
    | .ok registration =>
      if getPacketType p = .registration ∧ x.before.Admits registration then
        some (x.before.call registration)
      else none
  | .runTimer => some .decreaseLifetime
  | .maxLifetime _ => none

theorem calls_eq_some_iff {op : BindingOp} : calls x = some op ↔
    (x.event = .runTimer ∧ op = .decreaseLifetime) ∨
      ∃ clock port registration, Receives x.event clock port registration ∧
        x.before.Admits registration ∧ op = x.before.call registration := by
  unfold calls
  constructor
  · intro hop
    cases he : x.event with
    | push clock port p =>
      rw [he] at hop
      cases hr : (processRegistrationRequestPacket p).1 with
      | error e =>
        simp only [hr] at hop
        cases hop
      | ok registration =>
        simp only [hr] at hop
        split_ifs at hop with hcond
        cases hop
        exact Or.inr ⟨clock, port, registration, ⟨p, rfl, hcond.1, hr⟩, hcond.2, rfl⟩
    | runTimer =>
      rw [he] at hop
      exact Or.inl ⟨rfl, (Option.some.inj hop).symm⟩
    | maxLifetime value =>
      rw [he] at hop
      cases hop
  · rintro (⟨he, rfl⟩ | ⟨clock, port, registration, ⟨p, he, htype, hr⟩, hadm, rfl⟩)
    · rw [he]
    · rw [he]
      simp only [hr]
      rw [if_pos ⟨htype, hadm⟩]

theorem step_calls (hs : x.before.step x.event = .ok (x.after, x.out)) :
    (∀ op, calls x = some op → x.after.mobilityBindings = op.apply x.before.mobilityBindings) ∧
      (calls x = none → x.after.mobilityBindings = x.before.mobilityBindings) := by
  rcases step_cases x.before x.event with ⟨clock, port, registration, hrec, heq⟩ | ⟨he, heq⟩ |
    ⟨ha', hnone, hne, heq, hsame⟩
  · have hafter : x.after = (x.before.processRegistration clock port registration).1 :=
      congrArg Prod.fst (Except.ok.inj (hs.symm.trans heq))
    by_cases hadm : x.before.Admits registration
    · have hcall : calls x = some (x.before.call registration) :=
        calls_eq_some_iff.2 (Or.inr ⟨clock, port, registration, hrec, hadm, rfl⟩)
      have hbindings : x.after.mobilityBindings = x.before.bindingsAfter registration := by
        rw [hafter, processRegistration_of_admits hadm]
      rw [hcall]
      refine ⟨fun op hop => ?_, fun hnil => nomatch hnil⟩
      cases hop
      rw [hbindings, apply_call]
    · have hsame : x.after.mobilityBindings = x.before.mobilityBindings := by
        rw [hafter, (processRegistration_of_not_admits hadm clock port).1]
      refine ⟨fun op hop => ?_, fun _ => hsame⟩
      rcases calls_eq_some_iff.1 hop with ⟨he, -⟩ | ⟨_, _, registration', hrec', hadm', -⟩
      · obtain ⟨p, he', -⟩ := hrec
        rw [he] at he'
        cases he'
      · rw [hrec'.unique hrec] at hadm'
        exact absurd hadm' hadm
  · rw [heq] at hs
    obtain ⟨hafter, -⟩ := Prod.mk.inj (Except.ok.inj hs)
    have hcall : calls x = some .decreaseLifetime := calls_eq_some_iff.2 (Or.inl ⟨he, rfl⟩)
    rw [hcall]
    refine ⟨fun op hop => ?_, fun hnil => nomatch hnil⟩
    cases hop
    rw [← hafter]
    rfl
  · rw [heq] at hs
    obtain ⟨hafter, -⟩ := Prod.mk.inj (Except.ok.inj hs)
    refine ⟨fun op hop => ?_, fun _ => ?_⟩
    · rcases calls_eq_some_iff.1 hop with ⟨he, -⟩ | ⟨clock, port, registration, hrec, -⟩
      · exact absurd he hne
      · exact absurd hrec (hnone clock port registration)
    · rw [← hafter, hsame]

/-- The bindings are what the operations have made of them. -/
theorem bindings_run {tr : Trace MobileIPHomeAgent HAEvent Emission}
    (hrun : Run MobileIPHomeAgent.step ha₀ tr ha) (hempty : ha₀.mobilityBindings = []) :
    ha.mobilityBindings = BindingOp.run (tr.filterMap calls) := by
  induction hrun with
  | nil => exact hempty
  | @snoc tr ha ha' e out _ hs ih =>
    obtain ⟨hsome, hnone⟩ := step_calls (x := ⟨ha, e, out, ha'⟩) hs
    rw [List.filterMap_append]
    cases hcall : calls ⟨ha, e, out, ha'⟩ with
    | none =>
      rw [List.filterMap_cons_none hcall, List.filterMap_nil, List.append_nil, ← ih]
      exact hnone hcall
    | some op =>
      rw [List.filterMap_cons_some hcall, List.filterMap_nil, BindingOp.run_snoc, ← ih]
      exact hsome op hcall

theorem calls_valid {op : BindingOp} (hstores : ¬ StoresZero x) (hop : calls x = some op) :
    op.Valid := by
  rcases calls_eq_some_iff.1 hop with ⟨-, rfl⟩ | ⟨clock, port, registration, hrec, hadm, rfl⟩
  · trivial
  · unfold call
    split_ifs with h0
    · trivial
    · trivial
    · have hne : x.before.lifetimeGranted registration ≠ 0 := fun hzero =>
        hstores ⟨clock, port, registration, hrec, hadm, h0,
          (lifetimeGranted_eq_zero_iff h0).1 hzero⟩
      have hpos := toNat_ne_zero.2 hne
      have hmin : (x.before.lifetimeGranted registration).toNat =
          min registration.lifetime.toNat x.before.maxAcceptedLifetime.toNat :=
        UInt32.toNat_min _ _
      obtain ⟨p, -, -, hreg⟩ := hrec
      have hbound := (processRegistrationRequestPacket_fields hreg).2
      refine ⟨UInt32.le_iff_toNat_le.2 ?_, UInt32.le_iff_toNat_le.2 ?_⟩
      · change 1 ≤ _
        omega
      · change _ ≤ 65535
        omega

/-- The step accepts a request for the binding, and grants it the lifetime. -/
def Registers (x : Entry MobileIPHomeAgent HAEvent Emission) (h c : IPAddress) (lifetime : UInt32) :
    Prop :=
  ∃ clock port registration, Receives x.event clock port registration ∧
    x.before.Admits registration ∧ registration.lifetime ≠ 0 ∧ registration.home = h ∧
    registration.careOf = c ∧ x.before.lifetimeGranted registration = lifetime

/-- The step accepts a request to give up the binding, or all of the home address. -/
def GivesUp (x : Entry MobileIPHomeAgent HAEvent Emission) (h c : IPAddress) : Prop :=
  ∃ clock port registration, Receives x.event clock port registration ∧
    x.before.Admits registration ∧ registration.lifetime = 0 ∧ registration.home = h ∧
    (registration.careOf = c ∨ registration.careOf = h)

def seconds (tr : Trace MobileIPHomeAgent HAEvent Emission) : ℕ :=
  tr.countP fun x => x.event matches .runTimer

def timedCalls (x : Entry MobileIPHomeAgent HAEvent Emission) :
    Option (TimedMap.Op (IPAddress × IPAddress)) :=
  (calls x).map BindingOp.timed

theorem timedCalls_of_admits {clock : Clock} {port : ℕ}
    (hrec : Receives x.event clock port registration) (hadm : x.before.Admits registration) :
    timedCalls x = some (x.before.call registration).timed := by
  rw [timedCalls, calls_eq_some_iff.2 (Or.inr ⟨clock, port, registration, hrec, hadm, rfl⟩),
    Option.map_some]

theorem timedCalls_eq_some {op : TimedMap.Op (IPAddress × IPAddress)}
    (hop : timedCalls x = some op) : (x.event = .runTimer ∧ op = .tick) ∨
      ∃ clock port registration, Receives x.event clock port registration ∧
        x.before.Admits registration ∧ op = (x.before.call registration).timed := by
  obtain ⟨op, hcalls, rfl⟩ := Option.map_eq_some_iff.1 hop
  rcases calls_eq_some_iff.1 hcalls with ⟨he, rfl⟩ | ⟨clock, port, registration, hrec, hadm, rfl⟩
  · exact Or.inl ⟨he, rfl⟩
  · exact Or.inr ⟨clock, port, registration, hrec, hadm, rfl⟩

theorem timedCalls_add_iff {n : ℕ} : timedCalls x = some (.add (h, c) n) ↔
    ∃ lifetime, Registers x h c lifetime ∧ lifetime.toNat = n := by
  constructor
  · intro hop
    rcases timedCalls_eq_some hop with ⟨-, heq⟩ | ⟨clock, port, registration, hrec, hadm, heq⟩
    · cases heq
    · unfold call at heq
      split_ifs at heq with h0
      · cases heq
      · cases heq
      · obtain ⟨hkey, hn⟩ := TimedMap.Op.add.inj heq
        obtain ⟨hh, hc⟩ := Prod.mk.inj hkey
        exact ⟨_, ⟨clock, port, registration, hrec, hadm, h0, hh.symm, hc.symm, rfl⟩, hn.symm⟩
  · rintro ⟨lifetime, ⟨clock, port, registration, hrec, hadm, h0, rfl, rfl, rfl⟩, rfl⟩
    rw [timedCalls_of_admits hrec hadm, call, if_neg h0]
    rfl

theorem timedCalls_spares_iff : (∀ op ∈ timedCalls x, op.Spares (h, c)) ↔
    (∀ lifetime, ¬ Registers x h c lifetime) ∧ ¬ GivesUp x h c := by
  constructor
  · intro hspares
    constructor
    · intro lifetime hregisters
      exact hspares _ (timedCalls_add_iff.2 ⟨lifetime, hregisters, rfl⟩) rfl
    · rintro ⟨clock, port, registration, hrec, hadm, h0, rfl, hc⟩
      have hcovers := hspares _ (timedCalls_of_admits hrec hadm)
      rw [call, if_pos h0] at hcovers
      split_ifs at hcovers with hall
      · exact of_decide_eq_false hcovers rfl
      · exact of_decide_eq_false hcovers ⟨rfl, (hc.resolve_right hall).symm⟩
  · rintro ⟨hregisters, hgives⟩ op hop
    rcases timedCalls_eq_some hop with ⟨-, rfl⟩ | ⟨clock, port, registration, hrec, hadm, rfl⟩
    · trivial
    · unfold call
      split_ifs with h0 hall
      · refine decide_eq_false fun hh => ?_
        exact hgives ⟨clock, port, registration, hrec, hadm, h0, hh.symm,
          Or.inr (hall.trans hh.symm)⟩
      · refine decide_eq_false fun hk => ?_
        exact hgives ⟨clock, port, registration, hrec, hadm, h0, hk.1.symm, Or.inl hk.2.symm⟩
      · intro hk
        obtain ⟨hh, hc⟩ := Prod.mk.inj hk
        exact hregisters _ ⟨clock, port, registration, hrec, hadm, h0, hh, hc, rfl⟩

theorem ticks_timedCalls (tr : Trace MobileIPHomeAgent HAEvent Emission) :
    TimedMap.ticks (tr.filterMap timedCalls) = seconds tr := by
  unfold TimedMap.ticks seconds
  rw [List.countP_filterMap]
  refine List.countP_congr fun x _ => ?_
  cases hop : timedCalls x with
  | none =>
    cases he : x.event with
    | push clock port p => rfl
    | runTimer => simp [timedCalls, calls, he] at hop
    | maxLifetime value => rfl
  | some op =>
    rcases timedCalls_eq_some hop with ⟨he, rfl⟩ | ⟨_, _, registration, ⟨p, he, -⟩, -, rfl⟩
    · rw [he]
      rfl
    · rw [he]
      unfold call
      split_ifs
      all_goals simp [BindingOp.timed]

/-- In every run in which no binding is given a lifetime of zero, there is a binding exactly if a
request for it was accepted, none has renewed it or given it up since, and the lifetime that was
granted is not over; and it has what is left of that. -/
theorem binding_history {tr : Trace MobileIPHomeAgent HAEvent Emission}
    (hrun : Run MobileIPHomeAgent.step ha₀ tr ha) (hempty : ha₀.mobilityBindings = [])
    (hstores : ∀ x ∈ tr, ¬ StoresZero x) (h c : IPAddress) (r : UInt32) :
    (⟨h, c, r⟩ : MobilityBindingListItem) ∈ ha.mobilityBindings ↔
      ∃ pre x post lifetime, tr = pre ++ x :: post ∧ Registers x h c lifetime ∧
        (∀ y ∈ post, (∀ lifetime, ¬ Registers y h c lifetime) ∧ ¬ GivesUp y h c) ∧
        ((lifetime = 65535 ∧ r = 65535) ∨ (lifetime ≠ 65535 ∧ seconds post < lifetime.toNat ∧
          r.toNat = lifetime.toNat - seconds post)) := by
  have hv : ∀ op ∈ tr.filterMap calls, op.Valid := by
    intro op hop
    obtain ⟨x, hx, hop⟩ := List.mem_filterMap.1 hop
    exact calls_valid (hstores x hx) hop
  have hvalid : ∀ o ∈ (tr.filterMap calls).map BindingOp.timed, o.Valid 65535 :=
    List.forall_mem_map.2 fun o ho => (hv o ho).timed
  have hlive : (⟨h, c, r⟩ : MobilityBindingListItem) ∈ ha.mobilityBindings ↔
      TimedMap.Live 65535 (tr.filterMap timedCalls) (h, c) r.toNat := by
    rw [bindings_run hrun hempty,
      ← List.mem_map_of_injective MobilityBindingList.entry_injective,
      MobilityBindingList.entry_run hv, MobilityBindingList.entry, TimedMap.mem_run_iff hvalid,
      List.map_filterMap]
    rfl
  rw [hlive, TimedMap.live_filterMap_iff]
  constructor
  · rintro ⟨pre, x, post, n, rfl, hx, hspares, hleft⟩
    obtain ⟨lifetime, hregisters, rfl⟩ := timedCalls_add_iff.1 hx
    rw [ticks_timedCalls] at hleft
    refine ⟨pre, x, post, lifetime, rfl, hregisters,
      fun y hy => timedCalls_spares_iff.1 (hspares y hy), ?_⟩
    simpa only [ne_eq, ← UInt32.toNat_inj, UInt32.reduceToNat] using hleft
  · rintro ⟨pre, x, post, lifetime, rfl, hregisters, hsince, hleft⟩
    refine ⟨pre, x, post, lifetime.toNat, rfl, timedCalls_add_iff.2 ⟨lifetime, hregisters, rfl⟩,
      fun y hy => timedCalls_spares_iff.2 (hsince y hy), ?_⟩
    rw [ticks_timedCalls]
    simpa only [ne_eq, ← UInt32.toNat_inj, UInt32.reduceToNat] using hleft

section Examples

open Definitions

theorem tick_spares (he : x.event = .runTimer) : ¬ StoresZero x ∧
    ∀ h c, (∀ lifetime, ¬ Registers x h c lifetime) ∧ ¬ GivesUp x h c := by
  have hrec : ∀ clock port registration, ¬ Receives x.event clock port registration := by
    intro _ _ _ hrec
    obtain ⟨p, hpush, -⟩ := hrec
    rw [he] at hpush
    cases hpush
  refine ⟨fun hstores => ?_, fun _ _ => ⟨fun _ hregisters => ?_, fun hgives => ?_⟩⟩
  · obtain ⟨clock, port, registration, hr, -⟩ := hstores
    exact hrec _ _ _ hr
  · obtain ⟨clock, port, registration, hr, -⟩ := hregisters
    exact hrec _ _ _ hr
  · obtain ⟨clock, port, registration, hr, -⟩ := hgives
    exact hrec _ _ _ hr

theorem binding_history_five :
    ∃ tr ha, Run MobileIPHomeAgent.step homeAgent tr ha ∧ seconds tr = 2 ∧
      ⟨mobileNodeAddress, foreignAgentPublicAddress, 3⟩ ∈ ha.mobilityBindings := by
  have hrec : Receives (relayedArrives (relayedRequest foreignAgentPublicAddress 5 7)) ⟨0, 0⟩ 1
      (relayedRequest foreignAgentPublicAddress 5 7).request :=
    ⟨_, rfl, by decide +kernel, by decide +kernel⟩
  have hrun := ((Run.nil.snoc (hrec.step homeAgent)).snoc (step_runTimer _)).snoc (step_runTimer _)
  refine ⟨_, _, hrun, rfl, (binding_history hrun rfl ?_ _ _ _).2
    ⟨[], _, _, 5, rfl, ⟨_, _, _, hrec, by decide, by decide, by decide, by decide, by decide⟩, ?_,
      Or.inr ⟨by decide, by decide, by decide⟩⟩⟩
  · simp only [List.nil_append, List.cons_append, List.forall_mem_cons]
    refine ⟨fun hstores => ?_, (tick_spares rfl).1, (tick_spares rfl).1, by simp⟩
    obtain ⟨_, _, _, -, -, -, hmax⟩ := hstores
    exact absurd hmax (by decide)
  · exact List.forall_mem_cons.2 ⟨(tick_spares rfl).2 _ _,
      List.forall_mem_cons.2 ⟨(tick_spares rfl).2 _ _, by simp⟩⟩

end Examples

end MobileIPHomeAgent

end MobileIP
