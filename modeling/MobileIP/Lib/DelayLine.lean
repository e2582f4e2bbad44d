import Mathlib.Data.List.GetD

/-! A list into which entries are put one by one, and from which those that have been in it long
enough are collected from time to time. At each collection an entry leaves the list or stays in it,
as `next` says. -/

namespace DelayLine

variable {α : Type}

inductive Op (α : Type) where
  | add (x : α)
  | collect
deriving DecidableEq, Repr

def collections (ops : List (Op α)) : ℕ := ops.countP fun op => op matches .collect

variable (next : α → α ⊕ α)

/-- The entries that leave, and those that stay. -/
def collect (l : List α) : List α × List α :=
  (l.filterMap fun x => (next x).getLeft?, l.filterMap fun x => (next x).getRight?)

/-- What each collection yields, and the list at the end. -/
def run : List α → List (Op α) → List (List α) × List α
  | l, [] => ([], l)
  | l, .add x :: ops => run (l ++ [x]) ops
  | l, .collect :: ops =>
    let (out, l) := collect next l
    let (outs, l) := run l ops
    (out :: outs, l)

/-- What leaves a list at the collection that follows `k` others, if nothing is added. -/
def leaving : ℕ → List α → List α
  | 0, l => (collect next l).1
  | k + 1, l => leaving k (collect next l).2

/-- The entry `x` stays for `n` collections and leaves as `y` at the next. -/
inductive Leaves : ℕ → α → α → Prop where
  | now {x y : α} : next x = .inl y → Leaves 0 x y
  | later {n : ℕ} {x x' y : α} : next x = .inr x' → Leaves n x' y → Leaves (n + 1) x y

theorem collect_append (l m : List α) : collect next (l ++ m) =
    ((collect next l).1 ++ (collect next m).1, (collect next l).2 ++ (collect next m).2) := by
  simp only [collect, List.filterMap_append]

theorem run_append (l : List α) (pre post : List (Op α)) :
    (run next l (pre ++ post)).1 =
      (run next l pre).1 ++ (run next (run next l pre).2 post).1 := by
  induction pre generalizing l with
  | nil => rfl
  | cons op pre ih =>
    cases op with
    | add x => exact ih (l ++ [x])
    | collect => exact congrArg ((collect next l).1 :: ·) (ih (collect next l).2)

theorem length_run (l : List α) (ops : List (Op α)) :
    (run next l ops).1.length = collections ops := by
  induction ops generalizing l with
  | nil => rfl
  | cons op ops ih =>
    cases op with
    | add x => exact ih (l ++ [x])
    | collect =>
      rw [collections, List.countP_cons_of_pos rfl]
      exact congrArg (· + 1) (ih (collect next l).2)

/-- The entries at the front of the list leave it as if they were alone in it. -/
theorem run_front (l m : List α) {ops : List (Op α)} {k : ℕ} (hk : k < collections ops) :
    (run next (l ++ m) ops).1.getD k [] =
      leaving next k l ++ (run next m ops).1.getD k [] := by
  induction ops generalizing l m k with
  | nil => exact absurd hk (Nat.not_lt_zero k)
  | cons op ops ih =>
    cases op with
    | add x =>
      have := ih l (m ++ [x]) hk
      rwa [← List.append_assoc] at this
    | collect =>
      rw [collections, List.countP_cons_of_pos rfl] at hk
      simp only [run, collect_append next]
      cases k with
      | zero => rfl
      | succ k => exact ih (collect next l).2 (collect next m).2 (Nat.lt_of_succ_lt_succ hk)

variable {next}

theorem leaving_nil (k : ℕ) : leaving next k [] = [] := by
  induction k with
  | zero => rfl
  | succ k ih => exact ih

theorem Leaves.leaving_singleton {n : ℕ} {x y : α} (h : Leaves next n x y) (k : ℕ) :
    leaving next k [x] = if k = n then [y] else [] := by
  induction h generalizing k with
  | @now x y hx =>
    have hcollect : collect next [x] = ([y], []) := by simp [collect, hx]
    cases k with
    | zero => simp [leaving, hcollect]
    | succ k => simp [leaving, hcollect, leaving_nil]
  | @later n x x' y hx _ ih =>
    have hcollect : collect next [x] = ([], [x']) := by simp [collect, hx]
    cases k with
    | zero => simp [leaving, hcollect]
    | succ k => simp [leaving, hcollect, ih]

/-- What is collected with an entry and without it: the entry is found once more, at the collection
at which it leaves, and nothing else is changed. -/
theorem Leaves.inserted {n : ℕ} {x y : α} (h : Leaves next n x y) (l : List α)
    (pre post : List (Op α)) {k : ℕ} (hk : k < collections (pre ++ post)) :
    ∃ before after, (run next l (pre ++ post)).1.getD k [] = before ++ after ∧
      (run next l (pre ++ .add x :: post)).1.getD k [] =
        before ++ (if k = collections pre + n then [y] else []) ++ after := by
  rw [run_append, run_append]
  have hlen := length_run next l pre
  rw [collections, List.countP_append] at hk
  change k < collections pre + collections post at hk
  by_cases hpre : k < collections pre
  · refine ⟨(run next l pre).1.getD k [], [], ?_, ?_⟩
    · rw [List.getD_append _ _ _ _ (hlen ▸ hpre), List.append_nil]
    · rw [List.getD_append _ _ _ _ (hlen ▸ hpre), if_neg (by omega), List.append_nil,
        List.append_nil]
  · obtain ⟨j, rfl⟩ := Nat.exists_eq_add_of_le (Nat.le_of_not_lt hpre)
    have hj : j < collections post := by omega
    have hfront := run_front next (run next l pre).2 [] hj
    have hentry := run_front next [x] [] hj
    have hadded := run_front next (run next l pre).2 ([x] ++ []) hj
    rw [List.append_nil] at hfront
    rw [hentry, h.leaving_singleton] at hadded
    have hindex : collections pre + j - collections pre = j := Nat.add_sub_cancel_left ..
    refine ⟨leaving next j (run next l pre).2, (run next [] post).1.getD j [], ?_, ?_⟩
    · rw [List.getD_append_right _ _ _ _ (by omega), hlen, hindex]
      exact hfront
    · rw [List.getD_append_right _ _ _ _ (by omega), hlen, hindex]
      simp only [Nat.add_left_cancel_iff, List.append_assoc]
      exact hadded

end DelayLine
