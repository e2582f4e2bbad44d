import MobileIP.Proofs.Holdings
import MobileIP.Spec.Definitions

/-! Where the entries of the tables come from. In any run of the network, whatever the order in
which messages arrive, all that is pending, in flight, bound or visiting is for the one mobile node,
and for care-of addresses that the node was told to register. -/

namespace MobileIP

variable {home : IPAddress} {A : IPAddress → Prop}

section Network

variable {ι : Type} {routes : Routes ι}

def Flight.message : Flight ι → RegistrationMessage
  | .requestToHA _ d => .request d
  | .requestToFA _ d => .request d
  | .replyToFA _ d => .reply d
  | .replyToMN d => .reply d

namespace Routes

theorem fromMN_message {e : Emission} {f : Flight ι} (hf : f ∈ routes.fromMN e) :
    f.message = e.message := by
  obtain ⟨output, message⟩ := e
  cases message with
  | request d =>
    simp only [fromMN] at hf
    split at hf
    · rw [List.mem_singleton.1 hf]
      rfl
    · rw [List.mem_singleton.1 hf]
      rfl
    · cases hf
  | reply d => cases hf

theorem fromFA_message {e : Emission} {f : Flight ι} (hf : f ∈ routes.fromFA e) :
    f.message = e.message := by
  obtain ⟨output, message⟩ := e
  cases message with
  | request d =>
    simp only [fromFA] at hf
    split at hf
    · split_ifs at hf
      · rw [List.mem_singleton.1 hf]
        rfl
      · cases hf
    · cases hf
  | reply d =>
    simp only [fromFA] at hf
    split_ifs at hf
    · rw [List.mem_singleton.1 hf]
      rfl
    · cases hf

theorem fromHA_message {e : Emission} {f : Flight ι} (hf : f ∈ routes.fromHA e) :
    f.message = e.message := by
  obtain ⟨output, message⟩ := e
  cases message with
  | request d => cases hf
  | reply d =>
    simp only [fromHA] at hf
    split_ifs at hf
    · rw [List.mem_singleton.1 hf]
      rfl
    · split at hf
      · rw [List.mem_singleton.1 hf]
        rfl
      · cases hf

end Routes

namespace Network

structure Sound (net : Network ι) (home : IPAddress) (A : IPAddress → Prop) : Prop where
  MN : net.MN.Within home A
  FA : ∀ i, (net.FA i).Serves home A
  HA : net.HA.Binds home A
  flights : ∀ f ∈ net.flights, RegistrationMessage.Sound home A f.message

variable {net net' : Network ι} {out : List Emission}

theorem message_flatMap (P : RegistrationMessage → Prop) {route : Emission → List (Flight ι)}
    (hroute : ∀ e f, f ∈ route e → f.message = e.message) (hout : ∀ e ∈ out, P e.message) :
    ∀ f ∈ out.flatMap route, P f.message := by
  intro f hf
  obtain ⟨e, he, hfe⟩ := List.mem_flatMap.1 hf
  rw [hroute e f hfe]
  exact hout e he

theorem Sound.asks (h : net.Sound home A) {r : MobileIPNode × List Emission}
    (hr : MobileIPNode.Asks home A r) :
    { net with MN := r.1, flights := net.flights ++ r.2.flatMap routes.fromMN }.Sound home A := by
  refine ⟨hr.within, h.FA, h.HA, List.forall_mem_append.2 ⟨h.flights, ?_⟩⟩
  refine message_flatMap (RegistrationMessage.Sound home A)
    (fun _ _ => Routes.fromMN_message) fun e he => ?_
  obtain ⟨d, rfl, hd⟩ := hr.out e he
  exact hd

structure Idle (net : Network ι) : Prop where
  MN : net.MN.requests = []
  FA : ∀ i, (net.FA i).requests = [] ∧ (net.FA i).visitors = []
  HA : net.HA.mobilityBindings = []
  flights : net.flights = []

theorem Idle.sound (h : net.Idle) (hA : A net.MN.connection.careOfAddress) :
    net.Sound net.MN.homeAddress A where
  MN := ⟨rfl, by simp [h.MN], hA⟩
  FA i := ⟨by simp [(h.FA i).1], by simp [(h.FA i).2]⟩
  HA := by simp [MobileIPHomeAgent.Binds, h.HA]
  flights := by simp [h.flights]

variable [DecidableEq ι]

theorem Sound.forwards (h : net.Sound home A) {i : ι} {r : MobileIPForeignAgent × List Emission}
    {source : IPAddress} (hr : MobileIPForeignAgent.Forwards home A source r) :
    { net with
      FA := Function.update net.FA i r.1
      flights := net.flights ++ r.2.flatMap routes.fromFA }.Sound home A := by
  refine ⟨h.MN, ?_, h.HA, List.forall_mem_append.2 ⟨h.flights, ?_⟩⟩
  · intro j
    by_cases hj : j = i
    · subst hj
      simpa using hr.serves
    · simpa [hj] using h.FA j
  · refine message_flatMap (RegistrationMessage.Sound home A)
      (fun _ _ => Routes.fromFA_message) fun e he => ?_
    rcases hr.out e he with ⟨d, rfl, hd⟩ | ⟨d, rfl, -, hd⟩
    · exact hd
    · exact hd

theorem Sound.receive (h : net.Sound home A) {f : Flight ι}
    (hf : RegistrationMessage.Sound home A f.message) {ctx : NetContext}
    (hs : net.receive routes ctx f = .ok (net', out)) : net'.Sound home A := by
  cases f with
  | requestToHA port d =>
    cases hs
    obtain ⟨hbinds, hout⟩ := MobileIPHomeAgent.processRegistration_binds h.HA
      d.request hf.2.1 hf.2.2 ctx.clock port
    refine ⟨h.MN, h.FA, hbinds, List.forall_mem_append.2 ⟨h.flights, ?_⟩⟩
    refine message_flatMap (RegistrationMessage.Sound home A)
      (fun _ _ => Routes.fromHA_message) fun e he => ?_
    obtain ⟨output, d', rfl, hd⟩ := hout e he
    exact hd
  | requestToFA i d =>
    cases hs
    exact h.forwards (MobileIPForeignAgent.relayRequest_forwards (h.FA i)
      d.request hf.2.1 hf.2.2 ctx.clock ctx.ttl)
  | replyToFA i d =>
    cases hs
    exact h.forwards (MobileIPForeignAgent.relayReply_forwards (h.FA i) d.reply hf.2
      ctx.clock)
  | replyToMN d =>
    simp only [Network.receive] at hs
    split at hs
    · cases hs
    · next mn out' hr =>
      cases hs
      exact h.asks (MobileIPNode.receiveReply_asks h.MN hr)

/-- The care-of address that an event gives to the node, if it gives one, is in `A`. -/
def Gives (A : IPAddress → Prop) : NetEvent ι → Prop
  | .reregister _ _ careOfAddress _ => A careOfAddress
  | _ => True

theorem Sound.step (h : net.Sound home A) {e : NetEvent ι} (he : Gives A e)
    (hs : net.step routes e = .ok (net', out)) : net'.Sound home A := by
  cases e with
  | reregister ctx address careOfAddress lifetime =>
    cases hs
    exact h.asks (MobileIPNode.reregister_asks h.MN ctx address he lifetime)
  | deliver ctx k =>
    simp only [Network.step, deliver] at hs
    split at hs
    · cases hs
      exact h
    · next f hk =>
      have herased : { net with flights := net.flights.eraseIdx k }.Sound home A :=
        ⟨h.MN, h.FA, h.HA, fun f hf => h.flights f ((List.eraseIdx_sublist _ _).subset hf)⟩
      exact herased.receive (h.flights f (List.mem_of_getElem? hk)) hs
  | tickMN ctx =>
    cases hs
    exact h.asks (MobileIPNode.runTimer_asks h.MN ctx)
  | tickFA i clock =>
    cases hs
    exact h.forwards (MobileIPForeignAgent.runTimer_forwards (h.FA i) clock)
  | tickHA =>
    cases hs
    exact ⟨h.MN, h.FA, MobileIPHomeAgent.runTimer_binds h.HA, h.flights⟩

/-- In every run from an idle network, a binding of the home agent is of the node, to a care-of
address that the node has been told to register since or had at the start; and a foreign agent with a
visitor has the node as its visitor, and such a care-of address. -/
theorem tables_traced {net₀ : Network ι} {tr : Machine.Trace (Network ι) (NetEvent ι) Emission}
    (hidle : net₀.Idle) (hrun : Machine.Run (Network.step routes) net₀ tr net) :
    let A : IPAddress → Prop := fun c => c = net₀.MN.connection.careOfAddress ∨
      ∃ x ∈ tr, ∃ ctx address lifetime, x.event = .reregister ctx address c lifetime
    (∀ it ∈ net.HA.mobilityBindings, it.homeAddress = net₀.MN.homeAddress ∧ A it.careOfAddress) ∧
      ∀ i, ∀ v ∈ (net.FA i).visitors,
        v.MNhome = net₀.MN.homeAddress ∧ A (net.FA i).careOfAddress := by
  intro A
  have hsound : net.Sound net₀.MN.homeAddress A := by
    refine Machine.Run.invariant_of (I := fun n => n.Sound net₀.MN.homeAddress A)
      (C := fun x => Gives A x.event) (hidle.sound (Or.inl rfl)) ?_ hrun ?_
    · intro x hs hC hI
      exact hI.step hC hs
    · intro x hx
      cases he : x.event with
      | reregister ctx address careOfAddress lifetime =>
        exact Or.inr ⟨x, hx, ctx, address, lifetime, he⟩
      | deliver ctx k => trivial
      | tickMN ctx => trivial
      | tickFA i clock => trivial
      | tickHA => trivial
  exact ⟨hsound.HA, fun i => (hsound.FA i).visitors⟩

section Examples

open Definitions

theorem idle_definitions : Definitions.network.Idle where
  MN := rfl
  FA i := by cases i <;> exact ⟨rfl, rfl⟩
  HA := rfl
  flights := rfl

theorem tables_traced_visit :
    let last := (Machine.exec (Network.step Definitions.routes) Definitions.network
      (visit 1 foreignAgentPrivateAddress foreignAgentPublicAddress)).2
    last.HA.mobilityBindings ≠ [] ∧
      ∀ it ∈ last.HA.mobilityBindings, it.homeAddress = mobileNodeAddress := by
  refine ⟨by decide +kernel, fun it hit => ?_⟩
  exact ((tables_traced idle_definitions (Machine.Run.of_exec _ _)).1 it hit).1

end Examples

end Network

end Network

end MobileIP
