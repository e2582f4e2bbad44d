import MobileIP.Lib.Run

/-! Forward simulation of one machine by another. Every step of the first is matched, from related
states, by some steps of the second that lead to related states again; then so is every run. -/

namespace Machine

variable {σ ε ω ξ σ' ε' ω' ξ' : Type} {step : σ → ε → Except ξ (σ × List ω)}
  {step' : σ' → ε' → Except ξ' (σ' × List ω')}

theorem Run.append {s₀ s₁ s₂ : σ} {tr tr' : Trace σ ε ω} (h : Run step s₀ tr s₁)
    (h' : Run step s₁ tr' s₂) : Run step s₀ (tr ++ tr') s₂ := by
  induction h' with
  | nil =>
    rw [List.append_nil]
    exact h
  | snoc _ hs ih =>
    rw [← List.append_assoc]
    exact ih.snoc hs

/-- The state `t` goes to a state that is related to `s`. -/
def Matches (step' : σ' → ε' → Except ξ' (σ' × List ω')) (R : σ → σ' → Prop) (s : σ) (t : σ') :
    Prop :=
  ∃ tr t', Run step' t tr t' ∧ R s t'

variable {R : σ → σ' → Prop} {s : σ} {t : σ'}

theorem Matches.stutter (h : R s t) : Matches step' R s t := ⟨[], t, .nil, h⟩

theorem Matches.single {e : ε'} {t' : σ'} {out : List ω'} (hs : step' t e = .ok (t', out))
    (h : R s t') : Matches step' R s t := ⟨_, t', Run.nil.snoc hs, h⟩

/-- The simulation rule. -/
theorem Run.simulate {s₀ : σ} {t₀ : σ'} {tr : Trace σ ε ω}
    (hstep : ∀ s e s' out t, step s e = .ok (s', out) → R s t → Matches step' R s' t)
    (h : Run step s₀ tr s) (h0 : R s₀ t₀) : ∃ tr' t, Run step' t₀ tr' t ∧ R s t := by
  induction h with
  | nil => exact ⟨[], t₀, .nil, h0⟩
  | @snoc tr s s' e out _ hs ih =>
    obtain ⟨tr', t, hrun, hR⟩ := ih
    obtain ⟨tr₁, t', hrun', hR'⟩ := hstep s e s' out t hs hR
    exact ⟨tr' ++ tr₁, t', hrun.append hrun', hR'⟩

end Machine
