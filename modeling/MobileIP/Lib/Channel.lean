import Mathlib.Data.List.Basic

/-! What a channel carries. The carriers in it stand for some of the messages that are under way, in
their order; other carriers stand for nothing, and other messages have lost their carrier. -/

namespace Channel

variable {α β : Type}

/-- The carriers `xs` carry some of the messages `ys`. -/
inductive Loaded (carries : α → β → Prop) (idle : α → Prop) : List α → List β → Prop where
  | nil : Loaded carries idle [] []
  | idle {x : α} {xs : List α} {ys : List β} :
      idle x → Loaded carries idle xs ys → Loaded carries idle (x :: xs) ys
  | carry {x : α} {y : β} {xs : List α} {ys : List β} :
      carries x y → Loaded carries idle xs ys → Loaded carries idle (x :: xs) (y :: ys)
  | lost {y : β} {xs : List α} {ys : List β} :
      Loaded carries idle xs ys → Loaded carries idle xs (y :: ys)

variable {carries : α → β → Prop} {idle : α → Prop} {xs xs' : List α} {ys ys' : List β}

namespace Loaded

theorem append (h : Loaded carries idle xs ys) (h' : Loaded carries idle xs' ys') :
    Loaded carries idle (xs ++ xs') (ys ++ ys') := by
  induction h with
  | nil => exact h'
  | idle hx _ ih => exact .idle hx ih
  | carry hxy _ ih => exact .carry hxy ih
  | lost _ ih => exact .lost ih

theorem flatMap {γ δ : Type} {f : γ → List α} {g : δ → List β} {h : δ → γ} {l : List δ}
    (hl : ∀ e ∈ l, Loaded carries idle (f (h e)) (g e)) :
    Loaded carries idle ((l.map h).flatMap f) (l.flatMap g) := by
  induction l with
  | nil => exact .nil
  | cons e l ih =>
    simp only [List.map_cons, List.flatMap_cons]
    exact (hl e List.mem_cons_self).append (ih fun e' he' => hl e' (List.mem_cons_of_mem _ he'))

theorem of_idle (h : ∀ x ∈ xs, idle x) : Loaded carries idle xs [] := by
  induction xs with
  | nil => exact .nil
  | cons x xs ih =>
    rw [List.forall_mem_cons] at h
    exact .idle h.1 (ih h.2)

theorem eraseIdx (h : Loaded carries idle xs ys) (k : ℕ) :
    Loaded carries idle (xs.eraseIdx k) ys := by
  induction h generalizing k with
  | nil => exact .nil
  | idle hx hrest ih =>
    cases k with
    | zero => exact hrest
    | succ k => exact .idle hx (ih k)
  | carry hxy hrest ih =>
    cases k with
    | zero => exact .lost hrest
    | succ k => exact .carry hxy (ih k)
  | lost _ ih => exact .lost (ih k)

theorem of_eraseIdx {k : ℕ} (h : Loaded carries idle xs (ys.eraseIdx k)) :
    Loaded carries idle xs ys := by
  generalize hys : ys.eraseIdx k = zs at h
  induction h generalizing k ys with
  | nil =>
    induction ys generalizing k with
    | nil => exact .nil
    | cons y ys ih =>
      cases k with
      | zero =>
        obtain rfl : ys = [] := hys
        exact .lost .nil
      | succ k => simp at hys
  | idle hx _ ih => exact .idle hx (ih hys)
  | @carry x z xs zs hxy hrest ih =>
    cases ys with
    | nil => simp at hys
    | cons y ys =>
      cases k with
      | zero =>
        obtain rfl : ys = z :: zs := hys
        exact .lost (.carry hxy hrest)
      | succ k =>
        obtain ⟨rfl, htail⟩ := List.cons.inj hys
        exact .carry hxy (ih htail)
  | @lost z xs zs hrest ih =>
    cases ys with
    | nil => simp at hys
    | cons y ys =>
      cases k with
      | zero =>
        obtain rfl : ys = z :: zs := hys
        exact .lost (.lost hrest)
      | succ k =>
        obtain ⟨rfl, htail⟩ := List.cons.inj hys
        exact .lost (ih htail)

theorem takeOut (h : Loaded carries idle xs ys) {k : ℕ} {x : α} (hk : xs[k]? = some x) :
    (idle x ∧ Loaded carries idle (xs.eraseIdx k) ys) ∨
      ∃ y k', carries x y ∧ ys[k']? = some y ∧
        Loaded carries idle (xs.eraseIdx k) (ys.eraseIdx k') := by
  induction h generalizing k with
  | nil => simp at hk
  | idle hx hrest ih =>
    cases k with
    | zero =>
      obtain rfl := Option.some.inj hk
      exact Or.inl ⟨hx, hrest⟩
    | succ k =>
      rcases ih hk with ⟨hidle, hloaded⟩ | ⟨y, k', hxy, hy, hloaded⟩
      · exact Or.inl ⟨hidle, .idle hx hloaded⟩
      · exact Or.inr ⟨y, k', hxy, hy, .idle hx hloaded⟩
  | @carry _ y _ _ hxy hrest ih =>
    cases k with
    | zero =>
      obtain rfl := Option.some.inj hk
      exact Or.inr ⟨y, 0, hxy, rfl, hrest⟩
    | succ k =>
      rcases ih hk with ⟨hidle, hloaded⟩ | ⟨y', k', hxy', hy, hloaded⟩
      · exact Or.inl ⟨hidle, .carry hxy hloaded⟩
      · exact Or.inr ⟨y', k' + 1, hxy', hy, .carry hxy hloaded⟩
  | lost hrest ih =>
    rcases ih hk with ⟨hidle, hloaded⟩ | ⟨y', k', hxy', hy, hloaded⟩
    · exact Or.inl ⟨hidle, .lost hloaded⟩
    · exact Or.inr ⟨y', k' + 1, hxy', hy, .lost hloaded⟩

end Loaded

end Channel
