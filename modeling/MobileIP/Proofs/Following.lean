import MobileIP.Proofs.Legible
import MobileIP.Proofs.Wires

/-! Where nothing is lost and no header has the checksum 0, the routers do with their frames just what
the network does with its messages. -/

namespace MobileIP

namespace Wires

variable {ι : Type} [DecidableEq ι] {routes : Routes ι} {w w' : Wires ι} {net net' : Network ι}
  {i : ι} {f : Flight ι} {out : List Emission}

/-- The wires are what the network is about, and every message in flight has its frame. -/
structure Follows (w : Wires ι) (net : Network ι) : Prop where
  MN : w.MN.host.MN = net.MN
  FA : ∀ i, (w.FA i).mipagent = net.FA i
  HA : w.HA.mipagent = net.HA
  frames : List.Forall₂ (Carries w.ether) w.frames net.flights

def answers (routes : Routes ι) (w : Wires ι) : Flight ι → Emission → List (Place ι × List UInt8)
  | .requestToHA _ _, e => w.fromAgent routes .home e.handoff
  | .requestToFA i _, e => w.fromAgent routes (.foreign i) e.handoff
  | .replyToFA i _, e => w.fromAgent routes (.foreign i) e.handoff
  | .replyToMN _, e => w.fromNode routes e.handoff

def messages (routes : Routes ι) : Flight ι → Emission → List (Flight ι)
  | .requestToHA _ _, e => routes.fromHA e
  | .requestToFA _ _, e => routes.fromFA e
  | .replyToFA _ _, e => routes.fromFA e
  | .replyToMN _, e => routes.fromMN e

def Sent (routes : Routes ι) (w : Wires ι) (f : Flight ι) (out : List Emission) : Prop :=
  ∀ e ∈ out, List.Forall₂ (Carries w.ether) (w.answers routes f e) (messages routes f e)

theorem Sent.flatMap (h : Sent routes w f out) : List.Forall₂ (Carries w.ether)
    (out.flatMap (w.answers routes f)) (out.flatMap (messages routes f)) := by
  induction out with
  | nil => exact .nil
  | cons e out ih =>
    rw [Sent, List.forall_mem_cons] at h
    simp only [List.flatMap_cons]
    exact List.rel_append h.1 (ih h.2)

end Wires

end MobileIP
