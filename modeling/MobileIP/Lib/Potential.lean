import Mathlib.Tactic
import MobileIP.Lib.Run

/-! Runs that come to an end. A potential that falls with every step bounds the length of a run, and
a channel has one if what a message leads to weighs less than the message. -/

namespace Machine

variable {σ ε ω ξ : Type} {step : σ → ε → Except ξ (σ × List ω)} {s₀ s : σ} {tr : Trace σ ε ω}

/-- The potential rule, under an invariant. -/
theorem Run.length_le {I : σ → Prop} {C : Entry σ ε ω → Prop} {φ : σ → ℕ} (h0 : I s₀)
    (hstep : ∀ x : Entry σ ε ω, step x.before x.event = .ok (x.after, x.out) → C x → I x.before →
      I x.after ∧ φ x.after < φ x.before)
    (h : Run step s₀ tr s) (hC : ∀ x ∈ tr, C x) : I s ∧ tr.length + φ s ≤ φ s₀ := by
  induction h with
  | nil => exact ⟨h0, by simp⟩
  | @snoc tr s s' e out _ hs ih =>
    obtain ⟨hI, hle⟩ := ih fun x hx => hC x (by simp [hx])
    obtain ⟨hI', hlt⟩ := hstep ⟨s, e, out, s'⟩ hs (hC _ (by simp)) hI
    refine ⟨hI', ?_⟩
    dsimp only at hlt
    rw [List.length_append, List.length_singleton]
    omega

end Machine

namespace Channel

variable {α : Type} {weight : α → ℕ}

theorem sum_weight_lt {l new : List α} {k : ℕ} {x : α} (hk : l[k]? = some x)
    (hnew : (new.map weight).sum < weight x) :
    ((l.eraseIdx k ++ new).map weight).sum < (l.map weight).sum := by
  obtain ⟨hlt, rfl⟩ := List.getElem?_eq_some_iff.1 hk
  have hperm := ((List.getElem_cons_eraseIdx_perm hlt).map weight).sum_eq
  rw [List.map_cons, List.sum_cons] at hperm
  rw [List.map_append, List.sum_append]
  omega

end Channel
