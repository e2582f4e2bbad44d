import MobileIP.Proofs.Frames

/-! The network that the wires stand for, and what leaves it so when a router hands on what it has
made of a frame. -/

namespace MobileIP

open Channel

variable {ι : Type}

namespace Wires

variable {A : IPAddress → Prop} {home : IPAddress} {routes : Routes ι} {w w' : Wires ι}
  {net : Network ι}

variable [DecidableEq ι]

/-- The network is what the wires are about: the elements of the routers, and the messages that their
frames carry. Care-of addresses are advertised from `A` only. -/
structure Decodes (home : IPAddress) (A : IPAddress → Prop) (w : Wires ι) (net : Network ι) :
    Prop where
  MN : w.MN.host.MN = net.MN
  FA : ∀ i, (w.FA i).mipagent = net.FA i
  HA : w.HA.mipagent = net.HA
  plain : ∀ i, (w.FA i).mipagent.careOfAddress.Plain
  homeOffer : A w.HA.mipadvertiser.careOfAddress
  foreignOffer : ∀ i, A (w.FA i).mipadvertiser.careOfAddress
  sound : net.Sound home A
  loads : w.Loads A w.frames net.flights

/-- The frames for the wires `w'` are those for `w`, as no address has changed. -/
structure SameDevices (w w' : Wires ι) : Prop where
  MN : w'.MN.ether = w.MN.ether
  FA : ∀ i, (w'.FA i).privateEther = (w.FA i).privateEther ∧
    (w'.FA i).publicEther = (w.FA i).publicEther
  HA : w'.HA.privateEther = w.HA.privateEther ∧ w'.HA.publicEther = w.HA.publicEther

omit [DecidableEq ι] in
theorem SameDevices.ether (h : SameDevices w w') : w'.ether = w.ether := by
  funext place
  cases place with
  | node => exact h.MN
  | agent a link =>
    cases a with
    | home => simp only [Wires.ether, h.HA.1, h.HA.2]
    | foreign i => simp only [Wires.ether, (h.FA i).1, (h.FA i).2]

theorem sameDevices_update (w : Wires ι) (i : ι) (FA : ForeignRouter)
    (hFA : FA.privateEther = (w.FA i).privateEther ∧ FA.publicEther = (w.FA i).publicEther)
    (frames : List (Place ι × List UInt8)) :
    SameDevices w { w with FA := Function.update w.FA i FA, frames := frames } := by
  refine ⟨rfl, ?_, rfl, rfl⟩
  exact (Function.forall_update_iff w.FA (p := fun j r =>
    r.privateEther = (w.FA j).privateEther ∧ r.publicEther = (w.FA j).publicEther)).2
    ⟨hFA, fun _ _ => ⟨rfl, rfl⟩⟩

namespace Decodes

omit [DecidableEq ι] in
theorem node (h : Decodes home A w net) (routes : Routes ι) {host : MobileHost}
    {r : MobileIPNode × List Emission} (hr : MobileIPNode.Asks home A r) (hhost : host.MN = r.1) :
    Decodes home A
      { w with
        MN := { w.MN with host := host }
        frames := w.frames ++ (r.2.map Emission.handoff).flatMap (w.fromNode routes) }
      { net with MN := r.1, flights := net.flights ++ r.2.flatMap routes.fromMN } := by
  have hether : SameDevices w { w with
      MN := { w.MN with host := host }
      frames := w.frames ++ (r.2.map Emission.handoff).flatMap (w.fromNode routes) } :=
    ⟨rfl, fun _ => ⟨rfl, rfl⟩, rfl, rfl⟩
  refine ⟨hhost, h.FA, h.HA, h.plain, h.homeOffer, h.foreignOffer, h.sound.asks hr, ?_⟩
  rw [Loads, hether.ether]
  refine h.loads.append (Loaded.flatMap fun e he => ?_)
  obtain ⟨d, he, -⟩ := hr.out e he
  exact loads_fromNode he

theorem foreign (h : Decodes home A w net) (routes : Routes ι) {i : ι}
    {r : MobileIPForeignAgent × List Emission}
    (hr : MobileIPForeignAgent.Forwards home A (net.FA i).careOfAddress r) :
    Decodes home A
      { w with
        FA := Function.update w.FA i { w.FA i with mipagent := r.1 }
        frames := w.frames ++ (r.2.map Emission.handoff).flatMap (w.fromAgent routes (.foreign i)) }
      { net with
        FA := Function.update net.FA i r.1
        flights := net.flights ++ r.2.flatMap routes.fromFA } := by
  have hether := sameDevices_update w i { w.FA i with mipagent := r.1 }
    ⟨rfl, rfl⟩ (w.frames ++ (r.2.map Emission.handoff).flatMap (w.fromAgent routes (.foreign i)))
  have hcareOf : r.1.careOfAddress.Plain := by
    rw [hr.careOf, ← h.FA i]
    exact h.plain i
  refine ⟨h.MN, fun j => ?_, h.HA, ?_, h.homeOffer, ?_, h.sound.forwards hr, ?_⟩
  · by_cases hj : j = i
    · subst hj
      simp
    · simpa [hj] using h.FA j
  · exact (Function.forall_update_iff w.FA (p := fun _ r => r.mipagent.careOfAddress.Plain)).2
      ⟨hcareOf, fun j _ => h.plain j⟩
  · exact (Function.forall_update_iff w.FA (p := fun _ r => A r.mipadvertiser.careOfAddress)).2
      ⟨h.foreignOffer i, fun j _ => h.foreignOffer j⟩
  · rw [Loads, hether.ether]
    refine h.loads.append (Loaded.flatMap fun e he => ?_)
    have hout := hr.out e he
    rw [← h.FA i] at hout
    exact loads_fromForeign (h.plain i) hout

theorem homeAgent (h : Decodes home A w net) (routes : Routes ι)
    {r : MobileIPHomeAgent × List Emission}
    (hbinds : r.1.Binds home A) (hout : ∀ e ∈ r.2, ∃ output d,
      e = ⟨output, .reply d⟩ ∧ RegistrationMessage.Sound home A (.reply d)) :
    Decodes home A
      { w with
        HA := { w.HA with mipagent := r.1 }
        frames := w.frames ++ (r.2.map Emission.handoff).flatMap (w.fromAgent routes .home) }
      { net with HA := r.1, flights := net.flights ++ r.2.flatMap routes.fromHA } := by
  have hether : SameDevices w { w with
      HA := { w.HA with mipagent := r.1 }
      frames := w.frames ++ (r.2.map Emission.handoff).flatMap (w.fromAgent routes .home) } :=
    ⟨rfl, fun _ => ⟨rfl, rfl⟩, rfl, rfl⟩
  refine ⟨h.MN, h.FA, rfl, h.plain, h.homeOffer, h.foreignOffer, ⟨h.sound.MN, h.sound.FA, hbinds,
    List.forall_mem_append.2 ⟨h.sound.flights, ?_⟩⟩, ?_⟩
  · refine Network.message_flatMap (RegistrationMessage.Sound home A)
      (fun _ _ => Routes.fromHA_message) fun e he => ?_
    obtain ⟨output, d, rfl, hd⟩ := hout e he
    exact hd
  · rw [Loads, hether.ether]
    refine h.loads.append (Loaded.flatMap fun e he => ?_)
    obtain ⟨output, d, he, -⟩ := hout e he
    exact loads_fromHome he

theorem homeAdvertises (h : Decodes home A w net) (routes : Routes ι) (destination : IPAddress) :
    Decodes home A
      { w with
        HA := { w.HA with mipadvertiser := (w.HA.mipadvertiser.sendAdvertisement destination).1 }
        frames := w.frames ++ w.fromAgent routes .home
          (.arpq 0 (w.HA.mipadvertiser.sendAdvertisement destination).2) } net := by
  have hether : SameDevices w { w with
      HA := { w.HA with mipadvertiser := (w.HA.mipadvertiser.sendAdvertisement destination).1 }
      frames := w.frames ++ w.fromAgent routes .home
        (.arpq 0 (w.HA.mipadvertiser.sendAdvertisement destination).2) } :=
    ⟨rfl, fun _ => ⟨rfl, rfl⟩, rfl, rfl⟩
  refine ⟨h.MN, h.FA, h.HA, h.plain, h.homeOffer, h.foreignOffer, h.sound, ?_⟩
  rw [Loads, hether.ether, ← List.append_nil net.flights]
  exact h.loads.append (loads_advertisement .home h.homeOffer destination)

theorem foreignAdvertises (h : Decodes home A w net) (routes : Routes ι) (i : ι)
    (destination : IPAddress) :
    Decodes home A
      { w with
        FA := Function.update w.FA i { w.FA i with
          mipadvertiser := ((w.FA i).mipadvertiser.sendAdvertisement destination).1 }
        frames := w.frames ++ w.fromAgent routes (.foreign i)
          (.arpq 0 ((w.FA i).mipadvertiser.sendAdvertisement destination).2) } net := by
  have hether := sameDevices_update w i { w.FA i with
      mipadvertiser := ((w.FA i).mipadvertiser.sendAdvertisement destination).1 }
    ⟨rfl, rfl⟩ (w.frames ++ w.fromAgent routes (.foreign i)
      (.arpq 0 ((w.FA i).mipadvertiser.sendAdvertisement destination).2))
  refine ⟨h.MN, ?_, h.HA, ?_, h.homeOffer, ?_, h.sound, ?_⟩
  · exact (Function.forall_update_iff w.FA (p := fun j r => r.mipagent = net.FA j)).2
      ⟨h.FA i, fun j _ => h.FA j⟩
  · exact (Function.forall_update_iff w.FA (p := fun _ r => r.mipagent.careOfAddress.Plain)).2
      ⟨h.plain i, fun j _ => h.plain j⟩
  · exact (Function.forall_update_iff w.FA (p := fun _ r => A r.mipadvertiser.careOfAddress)).2
      ⟨h.foreignOffer i, fun j _ => h.foreignOffer j⟩
  · rw [Loads, hether.ether, ← List.append_nil net.flights]
    exact h.loads.append (loads_advertisement (.foreign i) (h.foreignOffer i) destination)

omit [DecidableEq ι] in
theorem lose (h : Decodes home A w net) (k : ℕ) :
    Decodes home A { w with frames := w.frames.eraseIdx k } net :=
  ⟨h.MN, h.FA, h.HA, h.plain, h.homeOffer, h.foreignOffer, h.sound, h.loads.eraseIdx k⟩

omit [DecidableEq ι] in
theorem takeOut (h : Decodes home A w net) {k k' : ℕ}
    (hloads : w.Loads A (w.frames.eraseIdx k) (net.flights.eraseIdx k')) :
    Decodes home A { w with frames := w.frames.eraseIdx k }
      { net with flights := net.flights.eraseIdx k' } :=
  ⟨h.MN, h.FA, h.HA, h.plain, h.homeOffer, h.foreignOffer, ⟨h.sound.MN, h.sound.FA, h.sound.HA,
    fun f hf => h.sound.flights f ((List.eraseIdx_sublist _ _).subset hf)⟩, hloads⟩

end Decodes

end Wires

end MobileIP
