import Mathlib.Tactic

/-! Computations that keep a log of the places they have looked at, and how to show that they have
looked at permitted places only. -/

structure Logged (ι α : Type) where
  value : α
  log : List ι

namespace Logged

variable {ι α β : Type} {P : ι → Prop}

instance : Monad (Logged ι) where
  pure a := ⟨a, []⟩
  bind x f := ⟨(f x.value).value, x.log ++ (f x.value).log⟩

@[simp]
theorem value_pure (a : α) : (pure a : Logged ι α).value = a := rfl

@[simp]
theorem value_bind (x : Logged ι α) (f : α → Logged ι β) : (x >>= f).value = (f x.value).value := rfl

@[simp]
theorem value_ite {c : Prop} [Decidable c] (x y : Logged ι α) :
    (if c then x else y).value = if c then x.value else y.value := apply_ite value c x y

def Within (P : ι → Prop) (x : Logged ι α) : Prop := ∀ i ∈ x.log, P i

@[simp]
theorem within_pure (a : α) : Within P (pure a : Logged ι α) := by
  intro i hi
  cases hi

@[simp]
theorem within_bind (x : Logged ι α) (f : α → Logged ι β) :
    Within P (x >>= f) ↔ Within P x ∧ Within P (f x.value) := List.forall_mem_append

@[simp]
theorem within_ite {c : Prop} [Decidable c] (x y : Logged ι α) :
    Within P (if c then x else y) ↔ (c → Within P x) ∧ (¬ c → Within P y) := by
  by_cases hc : c
  · simp [hc]
  · simp [hc]

end Logged
