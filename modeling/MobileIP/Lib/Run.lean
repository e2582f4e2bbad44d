import Mathlib.Data.List.Basic

/-! Runs of a machine that is given by a step function. A step takes an event, may fail, and else
returns the next state and the outputs. A run is recorded step by step, with the states before and
after each step, so that a property of every state or of every step of a run is one about the
members of its record. -/

namespace Machine

variable {σ ε ω ξ : Type}

structure Entry (σ ε ω : Type) where
  before : σ
  event : ε
  out : List ω
  after : σ

abbrev Trace (σ ε ω : Type) := List (Entry σ ε ω)

def Trace.outputs (tr : Trace σ ε ω) : List ω := tr.flatMap Entry.out

inductive Run (step : σ → ε → Except ξ (σ × List ω)) (s₀ : σ) : Trace σ ε ω → σ → Prop where
  | nil : Run step s₀ [] s₀
  | snoc {tr : Trace σ ε ω} {s s' : σ} {e : ε} {out : List ω} :
      Run step s₀ tr s → step s e = .ok (s', out) → Run step s₀ (tr ++ [⟨s, e, out, s'⟩]) s'

/-- The record of the run on a list of events, up to the first step that fails, and its end. -/
def exec (step : σ → ε → Except ξ (σ × List ω)) : σ → List ε → Trace σ ε ω × σ
  | s, [] => ([], s)
  | s, e :: es =>
    match step s e with
    | .error _ => ([], s)
    | .ok (s', out) =>
      let (tr, s'') := exec step s' es
      (⟨s, e, out, s'⟩ :: tr, s'')

variable {step : σ → ε → Except ξ (σ × List ω)} {s₀ s : σ} {tr : Trace σ ε ω}

@[simp]
theorem Trace.outputs_snoc (tr : Trace σ ε ω) (x : Entry σ ε ω) :
    Trace.outputs (tr ++ [x]) = Trace.outputs tr ++ x.out := by
  simp [Trace.outputs]

theorem countP_snoc {α : Type} (t : α → Bool) (l : List α) (x : α) :
    (l ++ [x]).countP t = l.countP t + (t x).toNat := by
  rw [List.countP_append, List.countP_singleton]
  cases t x <;> rfl

theorem snoc_split {α : Type} {l pre post : List α} {x y : α} (h : l ++ [y] = pre ++ x :: post) :
    (post = [] ∧ pre = l ∧ x = y) ∨ ∃ post', post = post' ++ [y] ∧ l = pre ++ x :: post' := by
  induction pre generalizing l with
  | nil =>
    cases l with
    | nil =>
      obtain ⟨hy, hpost⟩ := List.cons.inj h
      exact Or.inl ⟨hpost.symm, rfl, hy.symm⟩
    | cons a l =>
      obtain ⟨rfl, hpost⟩ := List.cons.inj h
      exact Or.inr ⟨l, hpost.symm, rfl⟩
  | cons b pre ih =>
    cases l with
    | nil => simp at h
    | cons a l =>
      obtain ⟨rfl, hrest⟩ := List.cons.inj h
      rcases ih hrest with ⟨hpost, rfl, hxy⟩ | ⟨post', hpost, rfl⟩
      · exact Or.inl ⟨hpost, rfl, hxy⟩
      · exact Or.inr ⟨post', hpost, rfl⟩

theorem event_mem_of_exec {es : List ε} {x : Entry σ ε ω} (hx : x ∈ (exec step s es).1) :
    x.event ∈ es := by
  induction es generalizing s with
  | nil => simp [exec] at hx
  | cons e es ih =>
    simp only [exec] at hx
    cases hs : step s e with
    | error _ => simp [hs] at hx
    | ok r =>
      simp only [hs, List.mem_cons] at hx
      rcases hx with rfl | hx
      · exact List.mem_cons_self
      · exact List.mem_cons_of_mem _ (ih hx)

namespace Run

theorem step_mem (h : Run step s₀ tr s) :
    ∀ x ∈ tr, step x.before x.event = .ok (x.after, x.out) := by
  induction h with
  | nil => simp
  | snoc _ hs ih =>
    intro x hx
    rcases List.mem_append.1 hx with hx | hx
    · exact ih x hx
    · rw [List.mem_singleton.1 hx]; exact hs

/-- A run up to one of its steps is a run, and it ends in the state before that step. -/
theorem to_entry (h : Run step s₀ tr s) :
    ∀ pre x post, tr = pre ++ x :: post → Run step s₀ pre x.before := by
  induction h with
  | nil => simp
  | @snoc tr s s' e out h hs ih =>
    intro pre x post heq
    rcases snoc_split heq with ⟨-, rfl, rfl⟩ | ⟨post', -, htr⟩
    · exact h
    · exact ih pre x post' htr

theorem from_entry (h : Run step s₀ tr s) :
    ∀ pre x post, tr = pre ++ x :: post → Run step x.after post s := by
  induction h with
  | nil => simp
  | @snoc tr s s' e out h hs ih =>
    intro pre x post heq
    rcases snoc_split heq with ⟨rfl, -, rfl⟩ | ⟨post', rfl, htr⟩
    · exact .nil
    · exact .snoc (ih pre x post' htr) hs

theorem cons {s₁ : σ} {e : ε} {out : List ω} (hs : step s₀ e = .ok (s₁, out))
    (h : Run step s₁ tr s) : Run step s₀ (⟨s₀, e, out, s₁⟩ :: tr) s := by
  induction h with
  | nil => exact .snoc .nil hs
  | snoc _ hstep ih => exact .snoc ih hstep

theorem uncons {x : Entry σ ε ω} (h : Run step s₀ (x :: tr) s) :
    x.before = s₀ ∧ step x.before x.event = .ok (x.after, x.out) ∧ Run step x.after tr s := by
  refine ⟨?_, h.step_mem x List.mem_cons_self, h.from_entry [] x tr rfl⟩
  have hpre : ∀ {pre s'}, Run step s₀ pre s' → pre = [] → s' = s₀ := by
    intro pre s' hrun hnil
    cases hrun with
    | nil => rfl
    | snoc _ _ => simp at hnil
  exact hpre (h.to_entry [] x tr rfl) rfl

theorem of_exec (s : σ) (es : List ε) : Run step s (exec step s es).1 (exec step s es).2 := by
  induction es generalizing s with
  | nil => exact .nil
  | cons e es ih =>
    simp only [exec]
    cases hs : step s e with
    | error _ => exact .nil
    | ok r => exact cons hs (ih r.1)

theorem exists_of_exec (es : List ε) (h : (exec step s₀ es).2 = s) : ∃ tr, Run step s₀ tr s :=
  ⟨_, h ▸ of_exec s₀ es⟩

/-- The invariant rule. -/
theorem invariant {I : σ → Prop} (h0 : I s₀)
    (hstep : ∀ s e s' out, I s → step s e = .ok (s', out) → I s')
    (h : Run step s₀ tr s) : I s := by
  induction h with
  | nil => exact h0
  | snoc _ hs ih => exact hstep _ _ _ _ ih hs

theorem before_of_after {I : σ → Prop} (h0 : I s₀) (h : Run step s₀ tr s)
    (hafter : ∀ x ∈ tr, I x.after) : (∀ x ∈ tr, I x.before) ∧ I s := by
  induction h with
  | nil => exact ⟨by simp, h0⟩
  | @snoc tr s s' e out _ _ ih =>
    simp only [List.forall_mem_append, List.forall_mem_singleton] at hafter ⊢
    obtain ⟨hbefore, hs⟩ := ih hafter.1
    exact ⟨⟨hbefore, hs⟩, hafter.2⟩

/-- The invariant rule for runs whose steps all meet a condition. -/
theorem invariant_of {I : σ → Prop} {C : Entry σ ε ω → Prop} (h0 : I s₀)
    (hstep : ∀ x : Entry σ ε ω, step x.before x.event = .ok (x.after, x.out) → C x →
      I x.before → I x.after)
    (h : Run step s₀ tr s) (hC : ∀ x ∈ tr, C x) : I s := by
  induction h with
  | nil => exact h0
  | @snoc tr s s' e out _ hs ih =>
    exact hstep ⟨s, e, out, s'⟩ hs (hC _ (by simp)) (ih fun x hx => hC x (by simp [hx]))

/-- The same rule, for the state after each step. -/
theorem invariant_after_of {I : σ → Prop} {C : Entry σ ε ω → Prop} (h0 : I s₀)
    (hstep : ∀ x : Entry σ ε ω, step x.before x.event = .ok (x.after, x.out) → C x →
      I x.before → I x.after)
    (h : Run step s₀ tr s) (hC : ∀ x ∈ tr, C x) : ∀ x ∈ tr, I x.after := by
  intro x hx
  obtain ⟨pre, post, rfl⟩ := List.append_of_mem hx
  have hbefore := invariant_of h0 hstep (h.to_entry pre x post rfl)
    fun y hy => hC y (List.mem_append_left _ hy)
  exact hstep x (h.step_mem x hx) (hC x hx) hbefore

/-- The invariant rule for what depends on how many steps of one kind there have been. -/
theorem counting {P : ℕ → σ → Prop} {C : Entry σ ε ω → Prop} {t : Entry σ ε ω → Bool} (h0 : P 0 s₀)
    (hstep : ∀ (x : Entry σ ε ω) (n : ℕ), step x.before x.event = .ok (x.after, x.out) → C x →
      P n x.before → P (n + (t x).toNat) x.after)
    (h : Run step s₀ tr s) (hC : ∀ x ∈ tr, C x) : P (tr.countP t) s := by
  induction h with
  | nil => exact h0
  | @snoc tr s s' e out _ hs ih =>
    have hlast := hstep ⟨s, e, out, s'⟩ _ hs (hC _ (by simp)) (ih fun x hx => hC x (by simp [hx]))
    rw [countP_snoc]
    exact hlast

theorem split (h : Run step s₀ tr s) :
    ∀ pre post, tr = pre ++ post → ∃ s₁, Run step s₀ pre s₁ := by
  intro pre post htr
  cases post with
  | nil => exact ⟨s, by rw [← List.append_nil pre, ← htr]; exact h⟩
  | cons x post => exact ⟨x.before, h.to_entry pre x post htr⟩

/-- Where a step keeps the invariant exactly when it meets a condition, the invariant holds after
every step of a run exactly when all its steps meet the condition. -/
theorem always_iff {I : σ → Prop} {C : Entry σ ε ω → Prop} (h0 : I s₀)
    (hstep : ∀ x : Entry σ ε ω, step x.before x.event = .ok (x.after, x.out) → I x.before →
      (I x.after ↔ C x))
    (h : Run step s₀ tr s) : (∀ x ∈ tr, I x.after) ↔ ∀ x ∈ tr, C x := by
  suffices hs : ((∀ x ∈ tr, I x.after) → I s) ∧
      ((∀ x ∈ tr, I x.after) ↔ ∀ x ∈ tr, C x) from hs.2
  induction h with
  | nil => exact ⟨fun _ => h0, by simp⟩
  | @snoc tr s s' e out _ hs ih =>
    have hlast := hstep ⟨s, e, out, s'⟩ hs
    refine ⟨fun hI => hI ⟨s, e, out, s'⟩ (by simp), ?_⟩
    simp only [List.forall_mem_append, List.forall_mem_singleton]
    constructor
    · intro hafter
      obtain ⟨hI, hI'⟩ := hafter
      exact ⟨ih.2.1 hI, (hlast (ih.1 hI)).1 hI'⟩
    · intro hall
      obtain ⟨hC, hC'⟩ := hall
      have hI := ih.2.2 hC
      exact ⟨hI, (hlast (ih.1 hI)).2 hC'⟩

end Run

end Machine
