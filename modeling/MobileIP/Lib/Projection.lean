import MobileIP.Lib.Run

/-! Runs of a machine as an observer sees them, who sees a part of the state, some of the events and
something of the outputs. Where what it sees of a step is again a step, and what it does not see
changes nothing it sees, its view of a run is determined by the events it sees. -/

namespace Machine

variable {σ ε ω ξ υ : Type} {step : σ → ε → Except ξ (σ × List ω)} {s₀ s s' : σ}
  {tr tr' : Trace σ ε ω}

def Trace.events (tr : Trace σ ε ω) : List ε := tr.map Entry.event

/-- The steps of a run whose event is seen. -/
def Trace.seen (see : ε → Option ε) (tr : Trace σ ε ω) : Trace σ ε ω :=
  tr.filter fun x => (see x.event).isSome

def Trace.seenEvents (see : ε → Option ε) (tr : Trace σ ε ω) : List ε := tr.events.filterMap see

theorem Run.deterministic (h : Run step s₀ tr s) (h' : Run step s₀ tr' s')
    (he : tr.events = tr'.events) : tr = tr' ∧ s = s' := by
  induction h generalizing tr' s' with
  | nil =>
    cases h' with
    | nil => exact ⟨rfl, rfl⟩
    | snoc _ _ => simp [Trace.events] at he
  | @snoc tr s s₁ e out _ hs ih =>
    cases h' with
    | nil => simp [Trace.events] at he
    | @snoc tr₁ t t₁ e' out' h₁ hs' =>
      simp only [Trace.events, List.map_append, List.map_singleton] at he
      obtain ⟨he, hlast⟩ := List.append_inj' he rfl
      obtain ⟨rfl, rfl⟩ := ih h₁ he
      obtain rfl : e = e' := List.singleton_inj.1 hlast
      obtain ⟨rfl, rfl⟩ := Prod.mk.inj (Except.ok.inj (hs.symm.trans hs'))
      exact ⟨rfl, rfl⟩

section

variable {view : σ → σ} {see : ε → Option ε} {shown : ω → υ}
  (hsee : ∀ s e e' s' out, see e = some e' → step s e = .ok (s', out) →
    ∃ out', step (view s) e' = .ok (view s', out') ∧ out'.map shown = out.map shown)
  (hskip : ∀ s e s' out, see e = none → step s e = .ok (s', out) → view s' = view s)

include hsee hskip

theorem Run.project (h : Run step s₀ tr s) :
    ∃ tr', Run step (view s₀) tr' (view s) ∧ tr'.events = tr.seenEvents see ∧
      (Trace.outputs tr').map shown = (Trace.outputs (tr.seen see)).map shown := by
  induction h with
  | nil => exact ⟨[], .nil, rfl, rfl⟩
  | @snoc tr s s₁ e out _ hs ih =>
    obtain ⟨tr', hrun, hevents, hout⟩ := ih
    cases he : see e with
    | none =>
      refine ⟨tr', hskip s e s₁ out he hs ▸ hrun, ?_, ?_⟩
      · simpa [Trace.seenEvents, Trace.events, he] using hevents
      · simpa [Trace.seen, he] using hout
    | some e' =>
      obtain ⟨out', hs', hshown⟩ := hsee s e e' s₁ out he hs
      refine ⟨_, hrun.snoc hs', ?_, ?_⟩
      · simpa [Trace.seenEvents, Trace.events, he] using hevents
      · simpa [Trace.seen, Trace.outputs, he, hshown] using hout

/-- Two runs that start alike, and whose events look the same, end alike and show the same. -/
theorem Run.noninterference {s₀' : σ} (h : Run step s₀ tr s) (h' : Run step s₀' tr' s')
    (h0 : view s₀ = view s₀') (he : tr.seenEvents see = tr'.seenEvents see) :
    view s = view s' ∧
      (Trace.outputs (tr.seen see)).map shown = (Trace.outputs (tr'.seen see)).map shown := by
  obtain ⟨t, hrun, hevents, hout⟩ := h.project hsee hskip
  obtain ⟨t', hrun', hevents', hout'⟩ := h'.project hsee hskip
  rw [h0] at hrun
  obtain ⟨rfl, hview⟩ := hrun.deterministic hrun' (hevents.trans (he.trans hevents'.symm))
  exact ⟨hview, hout.symm.trans hout'⟩

end

section

variable {α β : Type} {view : σ → α} {see : ε → β} {C : σ → ε → Prop}
  (hstep : ∀ s s' e e', view s = view s' → see e = see e' →
    (∀ r, step s e = .ok r → C s e) → (∀ r, step s' e' = .ok r → C s' e') →
    (step s e).toOption.map (Prod.map view id) = (step s' e').toOption.map (Prod.map view id))

include hstep

/-- Two runs in lock step. Where two steps that meet a condition look the same whenever their states
and events do, so do two runs of such steps, up to where they both fail. -/
theorem exec_lockstep {es es' : List ε} (h0 : view s = view s') (he : es.map see = es'.map see)
    (hC : ∀ x ∈ (exec step s es).1, C x.before x.event)
    (hC' : ∀ x ∈ (exec step s' es').1, C x.before x.event) :
    (exec step s es).1.map (fun x => (x.out, view x.after)) =
      (exec step s' es').1.map fun x => (x.out, view x.after) := by
  induction es generalizing s s' es' with
  | nil =>
    cases es' with
    | nil => rfl
    | cons e' es' => simp at he
  | cons e es ih =>
    cases es' with
    | nil => simp at he
    | cons e' es' =>
      simp only [List.map_cons, List.cons.injEq] at he
      have hlock := hstep s s' e e' h0 he.1 (fun r hr => hC ⟨s, e, r.2, r.1⟩ (by simp [exec, hr]))
        fun r hr => hC' ⟨s', e', r.2, r.1⟩ (by simp [exec, hr])
      simp only [exec] at hC hC' ⊢
      cases hs : step s e with
      | error _ =>
        cases hs' : step s' e' with
        | error _ => rfl
        | ok r' => simp [hs, hs', Except.toOption] at hlock
      | ok r =>
        cases hs' : step s' e' with
        | error _ => simp [hs, hs', Except.toOption] at hlock
        | ok r' =>
          simp only [hs, hs', List.forall_mem_cons] at hC hC'
          simp only [hs, hs', Except.toOption, Option.map_some, Option.some.injEq, Prod.ext_iff,
            Prod.map_fst, Prod.map_snd, id_eq] at hlock
          simp only [List.map_cons, ih hlock.1 he.2 hC.2 hC'.2, hlock.1, hlock.2]

end

end Machine
