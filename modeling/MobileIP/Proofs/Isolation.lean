import MobileIP.Lib.Projection
import MobileIP.Proofs.HomeAgent

/-! Mobile nodes do not interfere at the home agent: what the requests for one home address do to
it, and are answered, does not depend on the requests for the others. -/

namespace MobileIP

/-- The message without the clock value in the upper half of its identification. -/
def Emission.forgetClock (e : Emission) : Emission :=
  match e.message with
  | .reply d =>
    { e with message := .reply { d with payload := { d.payload with identification1 := 0 } } }
  | .request d =>
    { e with message := .request { d with payload := { d.payload with identification1 := 0 } } }

/-- What the node at `h` has to do with an event, the clock left out: nothing if the event is a
packet that holds no readable request for `h`. -/
def HAEvent.seenFrom (h : IPAddress) : HAEvent → Option HAEvent
  | .push _ port p =>
    if getPacketType p = .registration then
      match (processRegistrationRequestPacket p).1 with
      | .ok registration => if registration.home = h then some (.push ⟨0, 0⟩ port p) else none
      | .error _ => none
    else none
  | .runTimer => some .runTimer
  | .maxLifetime value => some (.maxLifetime value)

namespace MobilityBindingList

variable {h h' c : IPAddress} {lifetime : UInt32} {l : MobilityBindingList}

def ofHome (h : IPAddress) (l : MobilityBindingList) : MobilityBindingList :=
  l.filter fun it => decide (it.homeAddress = h)

theorem ofHome_add_self : ofHome h (add h c lifetime l) = add h c lifetime (ofHome h l) := by
  unfold ofHome
  induction l with
  | nil => simp [add]
  | cons it rest ih =>
    by_cases hh : it.homeAddress = h
    · rw [List.filter_cons_of_pos (by simpa using hh)]
      by_cases hc : it.careOfAddress = c
      · simp [add, hh, hc]
      · simp [add, hh, hc, ih]
    · have hne : ¬ (it.homeAddress = h ∧ it.careOfAddress = c) := fun hb => hh hb.1
      rw [List.filter_cons_of_neg (by simpa using hh), add, if_neg hne,
        List.filter_cons_of_neg (by simpa using hh), ih]

theorem ofHome_add_other (hne : h' ≠ h) : ofHome h (add h' c lifetime l) = ofHome h l := by
  unfold ofHome
  induction l with
  | nil => simp [add, hne]
  | cons it rest ih =>
    unfold add
    split_ifs with hk
    · have hh : it.homeAddress ≠ h := hk.1 ▸ hne
      rw [List.filter_cons_of_neg (by simpa using hh), List.filter_cons_of_neg (by simpa using hh)]
    · rw [List.filter_cons, List.filter_cons, ih]

theorem ofHome_remove_self : ofHome h (remove h c l) = remove h c (ofHome h l) := by
  simp only [ofHome, remove_eq, List.filter_filter, Bool.and_comm]

theorem ofHome_filter {f : MobilityBindingListItem → Bool}
    (hf : ∀ it, it.homeAddress = h → f it = true) : ofHome h (l.filter f) = ofHome h l := by
  rw [ofHome, List.filter_filter]
  refine List.filter_congr fun it _ => ?_
  by_cases hh : it.homeAddress = h
  · simp [hh, hf it hh]
  · simp [hh]

theorem ofHome_remove_other (hne : h' ≠ h) : ofHome h (remove h' c l) = ofHome h l := by
  rw [remove_eq]
  exact ofHome_filter fun it hh => by simp [hh, hne.symm]

theorem ofHome_removeAll_self : ofHome h (removeAll h l) = removeAll h (ofHome h l) := by
  simp only [ofHome, removeAll_eq, List.filter_filter, Bool.and_comm]

theorem ofHome_removeAll_other (hne : h' ≠ h) : ofHome h (removeAll h' l) = ofHome h l := by
  rw [removeAll_eq]
  exact ofHome_filter fun it hh => by simp [hh, hne.symm]

theorem ofHome_decreaseLifetime :
    ofHome h (decreaseLifetime l) = decreaseLifetime (ofHome h l) := by
  simp only [ofHome, decreaseLifetime_eq]
  refine CountDown.filter_filterMap (fun it it' hc => ?_) l
  rw [(Prod.mk.inj (countDown_key hc)).1]

end MobilityBindingList

namespace MobileIPHomeAgent

open MobilityBindingList

variable {h : IPAddress} {ha ha' ha₀ : MobileIPHomeAgent} {registration : RegistrationRequest}

def seenFrom (h : IPAddress) (ha : MobileIPHomeAgent) : MobileIPHomeAgent :=
  { ha with mobilityBindings := ofHome h ha.mobilityBindings }

theorem bindingsAfter_seen (hr : registration.home = h) :
    ofHome h (ha.bindingsAfter registration) = (ha.seenFrom h).bindingsAfter registration := by
  unfold bindingsAfter
  rw [hr]
  split_ifs
  · exact ofHome_removeAll_self
  · exact ofHome_remove_self
  · exact ofHome_add_self

theorem bindingsAfter_unseen (hr : registration.home ≠ h) :
    ofHome h (ha.bindingsAfter registration) = ofHome h ha.mobilityBindings := by
  unfold bindingsAfter
  split_ifs
  · exact ofHome_removeAll_other hr
  · exact ofHome_remove_other hr
  · exact ofHome_add_other hr

/-- The two calls send the same, the clock left out, and return the same. -/
def SameAnswer (r r' : Bool × List Emission) : Prop :=
  r'.1 = r.1 ∧ r'.2.map Emission.forgetClock = r.2.map Emission.forgetClock

theorem checkRegistrationValidity_seen (ha : MobileIPHomeAgent) (h : IPAddress)
    (clock clock' : Clock) (registration : RegistrationRequest) (port : ℕ) :
    SameAnswer (ha.checkRegistrationValidity clock registration port)
      ((ha.seenFrom h).checkRegistrationValidity clock' registration port) := by
  unfold checkRegistrationValidity
  split_ifs <;> exact ⟨rfl, rfl⟩

theorem checkForUnkwownHomeAgent_seen (ha : MobileIPHomeAgent) (h : IPAddress)
    (clock clock' : Clock) (registration : RegistrationRequest) (port : ℕ) :
    SameAnswer (ha.checkForUnkwownHomeAgent clock registration port)
      ((ha.seenFrom h).checkForUnkwownHomeAgent clock' registration port) := by
  by_cases hk : registration.homeAgent = ha.publicAddress ∧
      (registration.IP.destination = ha.privateAddress ∨
        registration.IP.destination = ha.publicAddress)
  · have hk' : registration.homeAgent = (ha.seenFrom h).publicAddress ∧
        (registration.IP.destination = (ha.seenFrom h).privateAddress ∨
          registration.IP.destination = (ha.seenFrom h).publicAddress) := hk
    rw [checkForUnkwownHomeAgent_known hk.1 hk.2, checkForUnkwownHomeAgent_known hk'.1 hk'.2]
    exact ⟨rfl, rfl⟩
  · have hk' : ¬ (registration.homeAgent = (ha.seenFrom h).publicAddress ∧
        (registration.IP.destination = (ha.seenFrom h).privateAddress ∨
          registration.IP.destination = (ha.seenFrom h).publicAddress)) := hk
    unfold checkForUnkwownHomeAgent
    dsimp only
    rw [if_neg hk, if_neg hk']
    exact ⟨rfl, rfl⟩

/-- The bindings have no part in what a request is answered, and the clock only in the upper half of
the identification. -/
theorem processRegistration_out (ha : MobileIPHomeAgent) (h : IPAddress) (clock clock' : Clock)
    (port : ℕ) (registration : RegistrationRequest) :
    ((ha.seenFrom h).processRegistration clock' port registration).2.map Emission.forgetClock =
      (ha.processRegistration clock port registration).2.map Emission.forgetClock := by
  obtain ⟨hvalid, hout⟩ := checkRegistrationValidity_seen ha h clock clock' registration port
  obtain ⟨hknown, hout'⟩ := checkForUnkwownHomeAgent_seen ha h clock clock' registration port
  unfold processRegistration
  rcases hc : ha.checkRegistrationValidity clock registration port with ⟨valid, out⟩
  rcases hc' : (ha.seenFrom h).checkRegistrationValidity clock' registration port with ⟨valid', out'⟩
  rw [hc, hc'] at hvalid hout
  obtain rfl : valid' = valid := hvalid
  cases valid' with
  | false => exact hout
  | true =>
    rcases hu : ha.checkForUnkwownHomeAgent clock registration port with ⟨known, out₁⟩
    rcases hu' : (ha.seenFrom h).checkForUnkwownHomeAgent clock' registration port with
      ⟨known', out₁'⟩
    rw [hu, hu'] at hknown hout'
    obtain rfl : known' = known := hknown
    cases known' with
    | false => exact hout'
    | true =>
      dsimp only
      by_cases h0 : registration.lifetime = 0
      · rw [if_pos h0, if_pos h0]; rfl
      · rw [if_neg h0, if_neg h0]; rfl

theorem admits_seen : (ha.seenFrom h).Admits registration ↔ ha.Admits registration :=
  ⟨fun hadm => ⟨hadm.1, hadm.2, hadm.3, hadm.4, hadm.5⟩,
    fun hadm => ⟨hadm.1, hadm.2, hadm.3, hadm.4, hadm.5⟩⟩

theorem processRegistration_seen (hr : registration.home = h) (clock clock' : Clock) (port : ℕ) :
    ((ha.seenFrom h).processRegistration clock' port registration).1 =
      (ha.processRegistration clock port registration).1.seenFrom h := by
  by_cases hadm : ha.Admits registration
  · rw [processRegistration_of_admits hadm, processRegistration_of_admits (admits_seen.2 hadm),
      ← bindingsAfter_seen hr]
    rfl
  · rw [(processRegistration_of_not_admits hadm clock port).1,
      (processRegistration_of_not_admits (mt admits_seen.1 hadm) clock' port).1]

theorem processRegistration_unseen (hr : registration.home ≠ h) (clock : Clock) (port : ℕ) :
    (ha.processRegistration clock port registration).1.seenFrom h = ha.seenFrom h := by
  by_cases hadm : ha.Admits registration
  · rw [processRegistration_of_admits hadm]
    dsimp only [seenFrom]
    rw [bindingsAfter_unseen hr]
  · rw [(processRegistration_of_not_admits hadm clock port).1]

theorem seenFrom_some {e e' : HAEvent} (he : e.seenFrom h = some e') :
    (e' = e ∧ (e = .runTimer ∨ ∃ value, e = .maxLifetime value)) ∨
      ∃ clock port registration, Receives e clock port registration ∧
        Receives e' ⟨0, 0⟩ port registration ∧ registration.home = h := by
  cases e with
  | push clock port p =>
    simp only [HAEvent.seenFrom] at he
    split_ifs at he with hp
    split at he
    · next registration hread =>
      split_ifs at he with hr
      obtain rfl := Option.some.inj he
      exact Or.inr ⟨clock, port, registration, ⟨p, rfl, hp, hread⟩, ⟨p, rfl, hp, hread⟩, hr⟩
    · cases he
  | runTimer => exact Or.inl ⟨(Option.some.inj he).symm, Or.inl rfl⟩
  | maxLifetime value => exact Or.inl ⟨(Option.some.inj he).symm, Or.inr ⟨value, rfl⟩⟩

theorem step_seen (ha : MobileIPHomeAgent) (e e' : HAEvent) (ha' : MobileIPHomeAgent)
    (out : List Emission) (he : e.seenFrom h = some e') (hs : ha.step e = .ok (ha', out)) :
    ∃ out', (ha.seenFrom h).step e' = .ok (ha'.seenFrom h, out') ∧
      out'.map Emission.forgetClock = out.map Emission.forgetClock := by
  rcases seenFrom_some he with ⟨rfl, rfl | ⟨value, rfl⟩⟩ |
    ⟨clock, port, registration, hrec, hrec', hr⟩
  · cases hs
    refine ⟨[], ?_, rfl⟩
    simp only [step, runTimer, seenFrom, ofHome_decreaseLifetime]
  · cases hs
    exact ⟨[], rfl, rfl⟩
  · rw [hrec.step] at hs
    cases hs
    exact ⟨_, by rw [hrec'.step, processRegistration_seen hr clock],
      processRegistration_out ha h clock ⟨0, 0⟩ port registration⟩

/-- A step that is not seen changes nothing that is. -/
theorem step_unseen (ha : MobileIPHomeAgent) (e : HAEvent) (ha' : MobileIPHomeAgent)
    (out : List Emission) (he : e.seenFrom h = none) (hs : ha.step e = .ok (ha', out)) :
    ha'.seenFrom h = ha.seenFrom h := by
  rcases step_cases ha e with ⟨clock, port, registration, hrec, heq⟩ | ⟨rfl, -⟩ |
    ⟨ha₁, hnone, -, heq, -⟩
  · have hr : registration.home ≠ h := by
      intro hr
      obtain ⟨p, rfl, hp, hread⟩ := hrec
      simp [HAEvent.seenFrom, hp, hread, hr] at he
    rw [heq] at hs
    have hfst : ha' = (ha.processRegistration clock port registration).1 := by
      rw [Except.ok.inj hs]
    rw [hfst]
    exact processRegistration_unseen hr clock port
  · cases he
  · cases e with
    | push clock port p =>
      have hpush : ha.step (.push clock port p) = .ok (ha, []) :=
        push_of_not_receives (hnone clock port) ha
      rw [hpush] at hs
      cases hs
      rfl
    | runTimer => cases he
    | maxLifetime value => cases he

def repliesTo (h : IPAddress) (tr : Machine.Trace MobileIPHomeAgent HAEvent Emission) :
    List Emission :=
  (Machine.Trace.outputs (tr.seen (HAEvent.seenFrom h))).map Emission.forgetClock

/-- Two runs from one state whose events are the same from where `h` stands leave the same bindings
of `h`, answer the same to look-ups of `h`, and reply the same to the requests for `h`. -/
theorem nodes_do_not_interfere {tr tr' : Machine.Trace MobileIPHomeAgent HAEvent Emission}
    (hrun : Machine.Run MobileIPHomeAgent.step ha₀ tr ha)
    (hrun' : Machine.Run MobileIPHomeAgent.step ha₀ tr' ha')
    (heq : tr.seenEvents (HAEvent.seenFrom h) = tr'.seenEvents (HAEvent.seenFrom h)) :
    (ha.mobilityBindings.filter fun it => decide (it.homeAddress = h)) =
        (ha'.mobilityBindings.filter fun it => decide (it.homeAddress = h)) ∧
      isMobileBinded h ha.mobilityBindings = isMobileBinded h ha'.mobilityBindings ∧
      getCareOfAddress h ha.mobilityBindings = getCareOfAddress h ha'.mobilityBindings ∧
      repliesTo h tr = repliesTo h tr' := by
  obtain ⟨hview, hreplies⟩ := hrun.noninterference step_seen step_unseen hrun' rfl heq
  have hbindings : ofHome h ha.mobilityBindings = ofHome h ha'.mobilityBindings :=
    congrArg mobilityBindings hview
  obtain ⟨hbound, hcareOf⟩ := lookup_filter h ha.mobilityBindings
  obtain ⟨hbound', hcareOf'⟩ := lookup_filter h ha'.mobilityBindings
  refine ⟨hbindings, ?_, ?_, hreplies⟩
  · rw [← hbound, ← hbound']
    exact congrArg (isMobileBinded h) hbindings
  · rw [← hcareOf, ← hcareOf']
    exact congrArg (getCareOfAddress h) hbindings

section Examples

open Definitions

theorem nodes_do_not_interfere_two_nodes :
    ∃ tr tr' ha ha', Machine.Run MobileIPHomeAgent.step homeAgent tr ha ∧
      Machine.Run MobileIPHomeAgent.step homeAgent tr' ha' ∧ tr.length = 2 ∧ tr'.length = 3 ∧
      repliesTo mobileNodeAddress tr = repliesTo mobileNodeAddress tr' := by
  let own : HAEvent := .push ⟨5, 0⟩ 1
    ((relayedRequest foreignAgentPublicAddress 100 1).packet RegistrationRequestPacket.bytes)
  let other : HAEvent := .push ⟨6, 0⟩ 1
    ({ relayedRequest foreignAgentPublicAddress 100 2 with
      payload := { (relayedRequest foreignAgentPublicAddress 100 2).payload with
        homeAddress := ⟨192, 168, 2, 9⟩ } }.packet RegistrationRequestPacket.bytes)
  obtain ⟨r, hr⟩ : ∃ r, r = Machine.exec MobileIPHomeAgent.step homeAgent [own, .runTimer] :=
    ⟨_, rfl⟩
  obtain ⟨r', hr'⟩ : ∃ r', r' = Machine.exec MobileIPHomeAgent.step homeAgent
    [other, own, .runTimer] := ⟨_, rfl⟩
  have hrun : Machine.Run MobileIPHomeAgent.step homeAgent r.1 r.2 := hr ▸ .of_exec _ _
  have hrun' : Machine.Run MobileIPHomeAgent.step homeAgent r'.1 r'.2 := hr' ▸ .of_exec _ _
  have heq : r.1.seenEvents (HAEvent.seenFrom mobileNodeAddress) =
      r'.1.seenEvents (HAEvent.seenFrom mobileNodeAddress) := by
    rw [hr, hr']
    decide +kernel
  refine ⟨_, _, _, _, hrun, hrun', ?_, ?_, (nodes_do_not_interfere hrun hrun' heq).2.2.2⟩
  · rw [hr]
    decide +kernel
  · rw [hr']
    decide +kernel

end Examples

end MobileIPHomeAgent

end MobileIP
