import Mathlib.Data.List.Basic
import Mathlib.Data.List.Nodup
import Mathlib.Logic.Function.Iterate

/-! Lists of keyed entries that a tick counts down one by one: each entry is kept, with less time
left, or dropped. A tick is `List.filterMap f`, where `f` does not touch the keys. -/

namespace CountDown

variable {α κ : Type} {f : α → Option α} {key : α → κ}

theorem map_filterMap_sublist {β : Type} {g h : α → β} {l : List α}
    (hf : ∀ x ∈ l, ∀ y, f x = some y → g y = h x) :
    ((l.filterMap f).map g).Sublist (l.map h) := by
  induction l with
  | nil => simp
  | cons x l ih =>
    have ih := ih fun z hz => hf z (List.mem_cons_of_mem _ hz)
    cases hx : f x with
    | none => rw [List.filterMap_cons_none hx]; exact ih.cons _
    | some y =>
      rw [List.filterMap_cons_some hx, List.map_cons, List.map_cons, hf x List.mem_cons_self y hx]
      exact ih.cons_cons _

theorem keys_filterMap_sublist (hf : ∀ x y, f x = some y → key y = key x) (l : List α) :
    ((l.filterMap f).map key).Sublist (l.map key) :=
  map_filterMap_sublist fun x _ => hf x

theorem filter_key_eq_singleton [DecidableEq κ] {l : List α} {x : α} (hnodup : (l.map key).Nodup)
    (hx : x ∈ l) : l.filter (fun y => decide (key y = key x)) = [x] := by
  obtain ⟨pre, post, rfl⟩ := List.append_of_mem hx
  rw [List.map_append, List.map_cons, List.nodup_append, List.nodup_cons] at hnodup
  obtain ⟨-, ⟨hpost, -⟩, hpre⟩ := hnodup
  have hpre' : pre.filter (fun y => decide (key y = key x)) = [] := by
    refine List.filter_eq_nil_iff.2 fun y hy => ?_
    simpa using hpre (key y) (List.mem_map_of_mem hy) (key x) List.mem_cons_self
  have hpost' : post.filter (fun y => decide (key y = key x)) = [] := by
    refine List.filter_eq_nil_iff.2 fun y hy => ?_
    simp only [decide_eq_true_eq]
    exact fun heq => hpost (heq ▸ List.mem_map_of_mem hy)
  rw [List.filter_append, hpre', List.filter_cons_of_pos (by simp), hpost', List.nil_append]

theorem filter_filterMap {P : α → Bool} (hP : ∀ x y, f x = some y → P y = P x) (l : List α) :
    (l.filterMap f).filter P = (l.filter P).filterMap f := by
  induction l with
  | nil => rfl
  | cons x l ih =>
    cases hx : f x with
    | none =>
      rw [List.filterMap_cons_none hx, ih, List.filter_cons]
      split_ifs
      · rw [List.filterMap_cons_none hx]
      · rfl
    | some y =>
      rw [List.filterMap_cons_some hx, List.filter_cons, List.filter_cons, hP x y hx, ih]
      split_ifs
      · rw [List.filterMap_cons_some hx]
      · rfl

theorem filter_iterate {P : α → Bool} (hP : ∀ x y, f x = some y → P y = P x) (n : ℕ) (l : List α) :
    ((List.filterMap f)^[n] l).filter P = (List.filterMap f)^[n] (l.filter P) := by
  induction n generalizing l with
  | zero => rfl
  | succ n ih =>
    rw [Function.iterate_succ_apply, Function.iterate_succ_apply, ih, filter_filterMap hP]

theorem iterate_nil (n : ℕ) : (List.filterMap f)^[n] [] = [] := by
  induction n with
  | zero => rfl
  | succ n ih => rw [Function.iterate_succ_apply, List.filterMap_nil, ih]

section Expiry

variable {left : α → ℕ} {I : α → Prop}
  (hf : ∀ x, I x → (left x = 1 ∧ f x = none) ∨ ∃ y, f x = some y ∧ I y ∧ left y + 1 = left x)

include hf

theorem mem_iterate_of_lt {n : ℕ} {x : α} {l : List α} (hm : x ∈ l) (hx : I x) (hn : n < left x) :
    ∃ y ∈ (List.filterMap f)^[n] l, I y := by
  induction n generalizing x l with
  | zero => exact ⟨x, hm, hx⟩
  | succ n ih =>
    rcases hf x hx with ⟨hone, -⟩ | ⟨y, hy, hIy, hleft⟩
    · omega
    · rw [Function.iterate_succ_apply]
      exact ih (List.mem_filterMap.2 ⟨x, hm, hy⟩) hIy (by omega)

theorem iterate_of_lt {n : ℕ} {x : α} (hx : I x) (hn : n < left x) :
    ∃ y, (List.filterMap f)^[n] [x] = [y] ∧ I y ∧ left y + n = left x := by
  induction n generalizing x with
  | zero => exact ⟨x, rfl, hx, rfl⟩
  | succ n ih =>
    rcases hf x hx with ⟨hone, -⟩ | ⟨y, hy, hIy, hleft⟩
    · omega
    · obtain ⟨z, hz, hIz, hzleft⟩ := ih hIy (by omega)
      refine ⟨z, ?_, hIz, by omega⟩
      rw [Function.iterate_succ_apply, List.filterMap_cons_some hy, List.filterMap_nil, hz]

theorem iterate_of_le (hpos : ∀ x, I x → 0 < left x) {n : ℕ} {x : α} (hx : I x) (hn : left x ≤ n) :
    (List.filterMap f)^[n] [x] = [] := by
  induction n generalizing x with
  | zero =>
    have := hpos x hx
    omega
  | succ n ih =>
    rw [Function.iterate_succ_apply]
    rcases hf x hx with ⟨-, hnone⟩ | ⟨y, hy, hIy, hleft⟩
    · rw [List.filterMap_cons_none hnone, List.filterMap_nil, iterate_nil]
    · rw [List.filterMap_cons_some hy, List.filterMap_nil]
      exact ih hIy (by omega)

end Expiry

end CountDown
