import MobileIP.Proofs.WireSteps

/-! The routers with their frames refine the network with its decoded messages. -/

namespace MobileIP

open Machine

variable {ι : Type}

namespace Wires

variable {A : IPAddress → Prop} {home : IPAddress} {routes : Routes ι} {w : Wires ι}
  {net : Network ι}

variable [DecidableEq ι]

def network (w : Wires ι) : Network ι where
  MN := w.MN.host.MN
  FA i := (w.FA i).mipagent
  HA := w.HA.mipagent

structure Idle (w : Wires ι) : Prop where
  network : w.network.Idle
  frames : w.frames = []

omit [DecidableEq ι] in
theorem Idle.decodes (h : w.Idle) (hplain : ∀ i, (w.FA i).mipagent.careOfAddress.Plain)
    (hcareOf : A w.MN.host.MN.connection.careOfAddress) (hhome : A w.HA.mipadvertiser.careOfAddress)
    (hforeign : ∀ i, A (w.FA i).mipadvertiser.careOfAddress) :
    Decodes w.MN.host.MN.homeAddress A w w.network := by
  refine ⟨rfl, fun _ => rfl, rfl, hplain, hhome, hforeign, h.network.sound hcareOf, ?_⟩
  rw [h.frames]
  exact .nil

/-- The routers, with the frames between them lost, delayed and reordered at will, do what the
network does with its messages: every run of theirs leaves the node and the agents as some run of the
network does. -/
theorem routers_refine_network {w₀ : Wires ι} {tr : Trace (Wires ι) (WireEvent ι) Handoff}
    (hidle : w₀.Idle) (hplain : ∀ i, (w₀.FA i).mipagent.careOfAddress.Plain)
    (hrun : Run (Wires.step routes) w₀ tr w) :
    ∃ tr' net, Run (Network.step routes) w₀.network tr' net ∧ w.MN.host.MN = net.MN ∧
      (∀ i, (w.FA i).mipagent = net.FA i) ∧ w.HA.mipagent = net.HA := by
  obtain ⟨tr', net, hrun', hdecodes⟩ := Run.simulate
    (R := Decodes w₀.MN.host.MN.homeAddress fun _ => True)
    (fun s e s' out t hs hR => step_simulates trivial hR hs) hrun
    (hidle.decodes hplain trivial trivial fun _ => trivial)
  exact ⟨tr', net, hrun', hdecodes.MN, hdecodes.FA, hdecodes.HA⟩

/-- Whatever frames are lost, delayed and reordered, the home agent binds the node only, and only to
the care-of addresses that are advertised, or to what an advertisement stands for whose header has
the checksum 0, or to what the node had at the start. -/
theorem bindings_advertised {w₀ : Wires ι} {tr : Trace (Wires ι) (WireEvent ι) Handoff}
    (hidle : w₀.Idle) (hplain : ∀ i, (w₀.FA i).mipagent.careOfAddress.Plain)
    (hrun : Run (Wires.step routes) w₀ tr w) :
    ∀ it ∈ w.HA.mipagent.mobilityBindings, it.homeAddress = w₀.MN.host.MN.homeAddress ∧
      (it.careOfAddress = w₀.HA.mipadvertiser.careOfAddress ∨
        (∃ i, it.careOfAddress = (w₀.FA i).mipadvertiser.careOfAddress) ∨
        it.careOfAddress = .zero ∨
        it.careOfAddress = w₀.MN.host.MN.connection.careOfAddress) := by
  let A : IPAddress → Prop := fun c => c = w₀.HA.mipadvertiser.careOfAddress ∨
    (∃ i, c = (w₀.FA i).mipadvertiser.careOfAddress) ∨ c = .zero ∨
    c = w₀.MN.host.MN.connection.careOfAddress
  have hzero : A .zero := Or.inr (Or.inr (Or.inl rfl))
  obtain ⟨tr', net, -, hdecodes⟩ := Run.simulate (R := Decodes w₀.MN.host.MN.homeAddress A)
    (fun s e s' out t hs hR => step_simulates hzero hR hs) hrun
    (hidle.decodes hplain (Or.inr (Or.inr (Or.inr rfl))) (Or.inl rfl)
      fun i => Or.inr (Or.inl ⟨i, rfl⟩))
  rw [hdecodes.HA]
  exact hdecodes.sound.HA

section Examples

open Definitions

theorem wires_idle : wires.Idle where
  network :=
    { MN := rfl
      FA := fun i => by cases i <;> exact ⟨rfl, rfl⟩
      HA := rfl
      flights := rfl }
  frames := rfl

theorem wires_plain (i : Bool) :
    (wires.FA i).mipagent.careOfAddress.Plain := by
  cases i <;> decide

def visit : List (WireEvent Bool) :=
  .advertise (.foreign false) ::
    List.replicate 5 (.deliver ⟨⟨0, 0⟩, 1, ⟨0, sendAt 1, ⟨0, 0, 0, 0, false, false⟩⟩⟩ 0)

theorem visit_run : Run (Wires.step Definitions.routes) wires
    (exec (Wires.step Definitions.routes) wires visit).1
    (exec (Wires.step Definitions.routes) wires visit).2 := Run.of_exec wires visit

theorem visit_binds :
    (exec (Wires.step Definitions.routes) wires visit).2.HA.mipagent.mobilityBindings =
      [⟨mobileNodeAddress, foreignAgentPublicAddress, 60⟩] := by decide +kernel

theorem routers_refine_network_visit : ∃ tr' net,
    Run (Network.step Definitions.routes) wires.network tr' net ∧
      net.HA.mobilityBindings = [⟨mobileNodeAddress, foreignAgentPublicAddress, 60⟩] := by
  obtain ⟨tr', net, hrun, -, -, hHA⟩ := routers_refine_network wires_idle wires_plain
    visit_run
  exact ⟨tr', net, hrun, hHA ▸ visit_binds⟩

theorem bindings_advertised_visit : foreignAgentPublicAddress = homeAgentPublicAddress ∨
    (∃ i, foreignAgentPublicAddress = (wires.FA i).mipadvertiser.careOfAddress) ∨
    foreignAgentPublicAddress = .zero ∨
    foreignAgentPublicAddress = mobileNode.connection.careOfAddress :=
  (bindings_advertised wires_idle wires_plain visit_run
    ⟨mobileNodeAddress, foreignAgentPublicAddress, 60⟩ (by rw [visit_binds]; simp)).2

end Examples

end Wires

end MobileIP
