import MobileIP.Lib.CountDown
import MobileIP.Lib.Run
import Mathlib.Data.List.Induction
import Mathlib.Tactic

/-! A map whose entries expire. The table is a list of keys with the lifetime each has left: an
entry is added at the end or renewed in place, removed by a predicate on keys, and counted down by
a tick that drops it when it reaches zero; a lifetime of `inf` does not count down.

The specification looks at the history of operations only: which key is live, with what lifetime
left, and since when. The table realises it, and holds the keys in the order they became live. -/

namespace TimedMap

variable {κ : Type} {inf : ℕ}

inductive Op (κ : Type) where
  | add (k : κ) (L : ℕ)
  | remove (covers : κ → Bool)
  | tick

def countDown (inf : ℕ) (x : κ × ℕ) : Option (κ × ℕ) :=
  if x.2 = inf then some x else if x.2 - 1 ≠ 0 then some (x.1, x.2 - 1) else none

def ticks (ops : List (Op κ)) : ℕ := ops.countP fun op => op matches .tick

/-- The operation does not end or renew an entry for `k`. -/
def Op.Spares (k : κ) : Op κ → Prop
  | .add k' _ => k' ≠ k
  | .remove covers => covers k = false
  | .tick => True

/-- `k` was last added with lifetime `L`, has not been removed since, and has `r` left. -/
def Live (inf : ℕ) (ops : List (Op κ)) (k : κ) (r : ℕ) : Prop :=
  ∃ pre L post, ops = pre ++ .add k L :: post ∧ (∀ op ∈ post, op.Spares k) ∧
    ((L = inf ∧ r = inf) ∨ (L ≠ inf ∧ ticks post < L ∧ r = L - ticks post))

def Present (inf : ℕ) (ops : List (Op κ)) (k : κ) : Prop := ∃ r, Live inf ops k r

/-- `k` became present with the operation at position `i` and has been so ever since. -/
def Entered (inf : ℕ) (ops : List (Op κ)) (k : κ) (i : ℕ) : Prop :=
  i < ops.length ∧ ¬ Present inf (ops.take i) k ∧
    ∀ j, i < j → j ≤ ops.length → Present inf (ops.take j) k

/-- The lifetimes a table can hold: between one and `inf`. -/
def Op.Valid (inf : ℕ) : Op κ → Prop
  | .add _ L => 1 ≤ L ∧ L ≤ inf
  | _ => True

theorem not_live_nil (k : κ) (r : ℕ) : ¬ Live inf [] k r := by
  rintro ⟨pre, L, post, h, -⟩
  simp at h

theorem live_snoc_of_spares {ops : List (Op κ)} {op : Op κ} {k : κ} {r : ℕ} (hs : op.Spares k) :
    Live inf (ops ++ [op]) k r ↔
      ∃ pre L post, ops = pre ++ .add k L :: post ∧ (∀ op ∈ post, op.Spares k) ∧
        ((L = inf ∧ r = inf) ∨
          (L ≠ inf ∧ ticks (post ++ [op]) < L ∧ r = L - ticks (post ++ [op]))) := by
  constructor
  · rintro ⟨pre, L, post, heq, hp, hr⟩
    rcases Machine.snoc_split heq with ⟨-, -, rfl⟩ | ⟨post', rfl, rfl⟩
    · exact absurd rfl hs
    · exact ⟨pre, L, post', rfl, fun o ho => hp o (by simp [ho]), hr⟩
  · rintro ⟨pre, L, post, rfl, hp, hr⟩
    refine ⟨pre, L, post ++ [op], by simp, ?_, hr⟩
    intro o ho
    rcases List.mem_append.1 ho with ho | ho
    · exact hp o ho
    · rw [List.mem_singleton.1 ho]; exact hs

theorem live_snoc_add {ops : List (Op κ)} {k k' : κ} {L r : ℕ} (hL : 1 ≤ L) :
    Live inf (ops ++ [.add k' L]) k r ↔ (k' = k ∧ r = L) ∨ (k' ≠ k ∧ Live inf ops k r) := by
  by_cases hk : k' = k
  · subst hk
    simp only [true_and, ne_eq, not_true_eq_false, false_and, or_false]
    constructor
    · rintro ⟨pre, L', post, heq, hp, hr⟩
      rcases Machine.snoc_split heq with ⟨rfl, -, h⟩ | ⟨post', rfl, -⟩
      · simp only [Op.add.injEq, true_and] at h
        subst h
        simp only [ticks, List.countP_nil] at hr
        omega
      · exact absurd rfl (hp (.add k' L) (by simp))
    · rintro rfl
      refine ⟨ops, r, [], by simp, by simp, ?_⟩
      simp only [ticks, List.countP_nil]
      omega
  · have hs : (Op.add k' L).Spares k := hk
    rw [live_snoc_of_spares hs]
    simp [Live, ticks, hk]

theorem live_snoc_remove {ops : List (Op κ)} {covers : κ → Bool} {k : κ} {r : ℕ} :
    Live inf (ops ++ [.remove covers]) k r ↔ Live inf ops k r ∧ covers k = false := by
  cases hk : covers k with
  | false =>
    have hs : (Op.remove covers).Spares k := hk
    rw [live_snoc_of_spares hs]
    simp [Live, ticks]
  | true =>
    simp only [Bool.true_eq_false, and_false, iff_false]
    rintro ⟨pre, L, post, heq, hp, -⟩
    rcases Machine.snoc_split heq with ⟨-, -, h⟩ | ⟨post', rfl, -⟩
    · simp at h
    · have : covers k = false := hp (.remove covers) (by simp)
      simp [hk] at this

theorem Live.bounds {ops : List (Op κ)} {k : κ} {r : ℕ} (hv : ∀ op ∈ ops, op.Valid inf)
    (h : Live inf ops k r) : 1 ≤ r ∧ r ≤ inf := by
  obtain ⟨pre, L, post, rfl, -, hr⟩ := h
  have : 1 ≤ L ∧ L ≤ inf := hv (.add k L) (by simp)
  omega

theorem live_snoc_tick {ops : List (Op κ)} {k : κ} {r : ℕ} (hv : ∀ op ∈ ops, op.Valid inf) :
    Live inf (ops ++ [.tick]) k r ↔
      ∃ r', Live inf ops k r' ∧ countDown inf (k, r') = some (k, r) := by
  have ht (post : List (Op κ)) : ticks (post ++ [.tick]) = ticks post + 1 := by simp [ticks]
  have hs : (Op.tick : Op κ).Spares k := trivial
  rw [live_snoc_of_spares hs]
  simp only [ht, countDown]
  constructor
  · rintro ⟨pre, L, post, rfl, hp, hr⟩
    have hL : 1 ≤ L ∧ L ≤ inf := hv (.add k L) (by simp)
    rcases hr with ⟨rfl, rfl⟩ | ⟨hne, hlt, rfl⟩
    · exact ⟨r, ⟨pre, r, post, rfl, hp, Or.inl ⟨rfl, rfl⟩⟩, by simp⟩
    · refine ⟨L - ticks post, ⟨pre, L, post, rfl, hp, Or.inr ⟨hne, by omega, rfl⟩⟩, ?_⟩
      rw [if_neg (by omega), if_pos (by omega)]
      simp; omega
  · rintro ⟨r', ⟨pre, L, post, rfl, hp, hr⟩, hc⟩
    have hL : 1 ≤ L ∧ L ≤ inf := hv (.add k L) (by simp)
    refine ⟨pre, L, post, rfl, hp, ?_⟩
    split_ifs at hc with h1 h2 <;> simp only [Option.some.injEq, Prod.mk.injEq, true_and] at hc <;>
      omega

theorem live_filterMap_iff {α : Type} {f : α → Option (Op κ)} {log : List α} {k : κ} {r : ℕ} :
    Live inf (log.filterMap f) k r ↔
      ∃ pre x post L, log = pre ++ x :: post ∧ f x = some (.add k L) ∧
        (∀ y ∈ post, ∀ op ∈ f y, op.Spares k) ∧
        ((L = inf ∧ r = inf) ∨
          (L ≠ inf ∧ ticks (post.filterMap f) < L ∧ r = L - ticks (post.filterMap f))) := by
  constructor
  · rintro ⟨pre, L, post, heq, hp, hr⟩
    obtain ⟨pre', rest, rfl, -, hrest⟩ := List.filterMap_eq_append_iff.1 heq
    obtain ⟨skipped, x, post', rfl, -, hx, rfl⟩ := List.filterMap_eq_cons_iff.1 hrest
    refine ⟨pre' ++ skipped, x, post', L, by simp, hx, fun y hy op hop => ?_, hr⟩
    exact hp op (List.mem_filterMap.2 ⟨y, hy, hop⟩)
  · rintro ⟨pre, x, post, L, rfl, hx, hp, hr⟩
    refine ⟨pre.filterMap f, L, post.filterMap f, by simp [hx], fun op hop => ?_, hr⟩
    obtain ⟨y, hy, hop⟩ := List.mem_filterMap.1 hop
    exact hp y hy op hop

theorem entered_unique {ops : List (Op κ)} {k : κ} {i j : ℕ} (hi : Entered inf ops k i)
    (hj : Entered inf ops k j) : i = j := by
  rcases Nat.lt_trichotomy i j with h | h | h
  · exact absurd (hi.2.2 j h hj.1.le) hj.2.1
  · exact h
  · exact absurd (hj.2.2 i h hi.1.le) hi.2.1

theorem Entered.present {ops : List (Op κ)} {k : κ} {i : ℕ} (h : Entered inf ops k i) :
    Present inf ops k := by
  simpa using h.2.2 ops.length h.1 le_rfl

/-- A key that stays present keeps the position at which it entered. -/
theorem Entered.snoc {ops : List (Op κ)} {op : Op κ} {k : κ} {i : ℕ} (h : Entered inf ops k i)
    (hp : Present inf (ops ++ [op]) k) : Entered inf (ops ++ [op]) k i := by
  obtain ⟨hi, hn, hall⟩ := h
  refine ⟨by simp; omega, by rwa [List.take_append_of_le_length hi.le], ?_⟩
  intro j hij hj
  by_cases hjl : j ≤ ops.length
  · rw [List.take_append_of_le_length hjl]
    exact hall j hij hjl
  · rw [List.take_of_length_le (by simp; omega)]
    exact hp

theorem entered_last {ops : List (Op κ)} {op : Op κ} {k : κ} (hn : ¬ Present inf ops k)
    (hp : Present inf (ops ++ [op]) k) : Entered inf (ops ++ [op]) k ops.length := by
  refine ⟨by simp, by simpa using hn, ?_⟩
  intro j hij hj
  rwa [List.take_of_length_le (by simp at hj ⊢; omega)]

theorem countDown_fst {x y : κ × ℕ} (h : countDown inf x = some y) : y.1 = x.1 := by
  unfold countDown at h
  split_ifs at h <;> simp only [Option.some.injEq] at h <;> simp [← h]

section Table

variable [DecidableEq κ]

def upsert (k : κ) (L : ℕ) : List (κ × ℕ) → List (κ × ℕ)
  | [] => [(k, L)]
  | x :: rest => if x.1 = k then (x.1, L) :: rest else x :: upsert k L rest

def apply (inf : ℕ) (t : List (κ × ℕ)) : Op κ → List (κ × ℕ)
  | .add k L => upsert k L t
  | .remove covers => t.filter fun x => !covers x.1
  | .tick => t.filterMap (countDown inf)

def run (inf : ℕ) (ops : List (Op κ)) : List (κ × ℕ) := ops.foldl (apply inf) []

theorem run_snoc (inf : ℕ) (ops : List (Op κ)) (op : Op κ) :
    run inf (ops ++ [op]) = apply inf (run inf ops) op := by
  simp [run, List.foldl_append]

theorem keys_upsert (k : κ) (L : ℕ) (t : List (κ × ℕ)) :
    (upsert k L t).map Prod.fst =
      if k ∈ t.map Prod.fst then t.map Prod.fst else t.map Prod.fst ++ [k] := by
  induction t with
  | nil => simp [upsert]
  | cons x t ih =>
    by_cases hx : x.1 = k
    · simp [upsert, hx]
    · rw [upsert, if_neg hx, List.map_cons, ih]
      have hk : k ≠ x.1 := fun h => hx h.symm
      simp only [List.map_cons, List.mem_cons, hk, false_or]
      split_ifs <;> rfl

theorem mem_upsert {k : κ} {L : ℕ} {t : List (κ × ℕ)} (ht : (t.map Prod.fst).Nodup) (x : κ × ℕ) :
    x ∈ upsert k L t ↔ x = (k, L) ∨ (x.1 ≠ k ∧ x ∈ t) := by
  induction t with
  | nil => simp [upsert]
  | cons y t ih =>
    simp only [List.map_cons, List.nodup_cons, List.mem_map] at ht
    by_cases hy : y.1 = k
    · subst hy
      have hne : ∀ z ∈ t, z.1 ≠ y.1 := fun z hz h => ht.1 ⟨z, hz, h⟩
      rw [upsert, if_pos rfl]
      simp only [List.mem_cons]
      constructor
      · rintro (h | h)
        · exact Or.inl h
        · exact Or.inr ⟨hne x h, Or.inr h⟩
      · rintro (h | ⟨hx, rfl | h⟩)
        · exact Or.inl h
        · exact absurd rfl hx
        · exact Or.inr h
    · rw [upsert, if_neg hy, List.mem_cons, ih ht.2, List.mem_cons]
      constructor
      · rintro (rfl | h | ⟨hx, h⟩)
        · exact Or.inr ⟨hy, Or.inl rfl⟩
        · exact Or.inl h
        · exact Or.inr ⟨hx, Or.inr h⟩
      · rintro (h | ⟨hx, h | h⟩)
        · exact Or.inr (Or.inl h)
        · exact Or.inl h
        · exact Or.inr (Or.inr ⟨hx, h⟩)

theorem keys_apply (inf : ℕ) (t : List (κ × ℕ)) (op : Op κ) :
    ((apply inf t op).map Prod.fst).Sublist (t.map Prod.fst) ∨
      ∃ k, k ∉ t.map Prod.fst ∧ (apply inf t op).map Prod.fst = t.map Prod.fst ++ [k] := by
  cases op with
  | add k L =>
    simp only [apply, keys_upsert]
    by_cases hk : k ∈ t.map Prod.fst
    · rw [if_pos hk]; exact Or.inl (List.Sublist.refl _)
    · rw [if_neg hk]; exact Or.inr ⟨k, hk, rfl⟩
  | remove covers => exact Or.inl (List.filter_sublist.map Prod.fst)
  | tick => exact Or.inl (CountDown.keys_filterMap_sublist (fun _ _ => countDown_fst) t)

theorem keys_nodup (ops : List (Op κ)) : ((run inf ops).map Prod.fst).Nodup := by
  induction ops using List.reverseRecOn with
  | nil => simp [run]
  | append_singleton ops op ih =>
    rw [run_snoc]
    rcases keys_apply inf (run inf ops) op with h | ⟨k, hk, h⟩
    · exact ih.sublist h
    · rw [h]
      exact List.Nodup.append ih (by simp) (by simpa using hk)

/-- The table holds exactly what is live, with the lifetime that is left. -/
theorem mem_run_iff {ops : List (Op κ)} (hv : ∀ op ∈ ops, op.Valid inf) (k : κ) (r : ℕ) :
    (k, r) ∈ run inf ops ↔ Live inf ops k r := by
  induction ops using List.reverseRecOn generalizing r with
  | nil => simpa [run] using not_live_nil k r
  | append_singleton ops op ih =>
    have hv' : ∀ o ∈ ops, o.Valid inf := fun o ho => hv o (by simp [ho])
    have hop : op.Valid inf := hv op (by simp)
    rw [run_snoc]
    cases op with
    | add k' L =>
      rw [apply, mem_upsert (keys_nodup ops), live_snoc_add hop.1, ih hv']
      simp only [Prod.mk.injEq]
      constructor
      · rintro (⟨rfl, rfl⟩ | ⟨hne, h⟩)
        · exact Or.inl ⟨rfl, rfl⟩
        · exact Or.inr ⟨fun h' => hne h'.symm, h⟩
      · rintro (⟨rfl, rfl⟩ | ⟨hne, h⟩)
        · exact Or.inl ⟨rfl, rfl⟩
        · exact Or.inr ⟨fun h' => hne h'.symm, h⟩
    | remove covers =>
      rw [apply, List.mem_filter, ih hv', live_snoc_remove]
      simp
    | tick =>
      rw [apply, List.mem_filterMap, live_snoc_tick hv']
      constructor
      · rintro ⟨⟨k', r'⟩, hm, hc⟩
        obtain rfl : k = k' := countDown_fst hc
        exact ⟨r', (ih hv' r').1 hm, hc⟩
      · rintro ⟨r', hl, hc⟩
        exact ⟨(k, r'), (ih hv' r').2 hl, hc⟩

theorem mem_keys_iff {ops : List (Op κ)} (hv : ∀ op ∈ ops, op.Valid inf) (k : κ) :
    k ∈ (run inf ops).map Prod.fst ↔ Present inf ops k := by
  simp [Present, ← mem_run_iff hv]

/-- The keys stand in the order in which they entered. -/
theorem keys_ordered {ops : List (Op κ)} (hv : ∀ op ∈ ops, op.Valid inf) :
    (∀ k ∈ (run inf ops).map Prod.fst, ∃ i, Entered inf ops k i) ∧
    ((run inf ops).map Prod.fst).Pairwise fun k k' =>
      ∀ i j, Entered inf ops k i → Entered inf ops k' j → i < j := by
  induction ops using List.reverseRecOn with
  | nil => simp [run]
  | append_singleton ops op ih =>
    have hv' : ∀ o ∈ ops, o.Valid inf := fun o ho => hv o (by simp [ho])
    obtain ⟨hex, hord⟩ := ih hv'
    have hpres : ∀ k ∈ (apply inf (run inf ops) op).map Prod.fst,
        Present inf (ops ++ [op]) k := by
      rw [← run_snoc]
      exact fun k hk => (mem_keys_iff hv k).1 hk
    -- a key of the old table that is still there has the position it had
    have hold : ∀ k ∈ (run inf ops).map Prod.fst, Present inf (ops ++ [op]) k →
        ∃ i, i < ops.length ∧ Entered inf ops k i ∧ Entered inf (ops ++ [op]) k i := by
      intro k hk hp
      obtain ⟨i, hi⟩ := hex k hk
      exact ⟨i, hi.1, hi, hi.snoc hp⟩
    have hpair : ∀ k k', k ∈ (run inf ops).map Prod.fst → k' ∈ (run inf ops).map Prod.fst →
        Present inf (ops ++ [op]) k → Present inf (ops ++ [op]) k' →
        (∀ i j, Entered inf ops k i → Entered inf ops k' j → i < j) →
        ∀ i j, Entered inf (ops ++ [op]) k i → Entered inf (ops ++ [op]) k' j → i < j := by
      intro k k' hk hk' hp hp' h i j hi hj
      obtain ⟨a, -, ha, ha'⟩ := hold k hk hp
      obtain ⟨b, -, hb, hb'⟩ := hold k' hk' hp'
      rw [entered_unique hi ha', entered_unique hj hb']
      exact h a b ha hb
    rw [run_snoc]
    rcases keys_apply inf (run inf ops) op with hsub | ⟨k₀, hk₀, heq⟩
    · refine ⟨fun k hk => ?_, ?_⟩
      · obtain ⟨i, -, -, hi⟩ := hold k (hsub.subset hk) (hpres k hk)
        exact ⟨i, hi⟩
      · refine (hord.sublist hsub).imp_of_mem fun {k k'} hk hk' h => ?_
        exact hpair k k' (hsub.subset hk) (hsub.subset hk') (hpres k hk) (hpres k' hk') h
    · have hmem : ∀ k ∈ (run inf ops).map Prod.fst, Present inf (ops ++ [op]) k :=
        fun k hk => hpres k (by rw [heq]; simp only [List.mem_append]; exact Or.inl hk)
      have hnew : Entered inf (ops ++ [op]) k₀ ops.length :=
        entered_last (fun h => hk₀ ((mem_keys_iff hv' k₀).2 h)) (hpres k₀ (by rw [heq]; simp))
      rw [heq]
      refine ⟨fun k hk => ?_, ?_⟩
      · rcases List.mem_append.1 hk with hk | hk
        · obtain ⟨i, -, -, hi⟩ := hold k hk (hmem k hk)
          exact ⟨i, hi⟩
        · rw [List.mem_singleton.1 hk]; exact ⟨_, hnew⟩
      · refine List.pairwise_append.2 ⟨?_, by simp, ?_⟩
        · exact hord.imp_of_mem fun {k k'} hk hk' h =>
            hpair k k' hk hk' (hmem k hk) (hmem k' hk') h
        · intro k hk k' hk' i j hi hj
          rw [List.mem_singleton.1 hk'] at hj
          obtain ⟨a, ha, -, ha'⟩ := hold k hk (hmem k hk)
          rw [entered_unique hi ha', entered_unique hj hnew]
          exact ha

theorem find_earliest {ops : List (Op κ)} (hv : ∀ op ∈ ops, op.Valid inf) {P : κ → Bool} {k : κ}
    (hk : ((run inf ops).map Prod.fst).find? P = some k) :
    ∃ i, Entered inf ops k i ∧ ∀ k' j, P k' = true → Entered inf ops k' j → i ≤ j := by
  obtain ⟨hex, hord⟩ := keys_ordered hv
  obtain ⟨hPk, as, bs, heq, has⟩ := List.find?_eq_some_iff_append.1 hk
  have hmem : k ∈ (run inf ops).map Prod.fst := by rw [heq]; simp
  obtain ⟨i, hi⟩ := hex k hmem
  refine ⟨i, hi, fun k' j hP hj => ?_⟩
  have hk' := (mem_keys_iff hv k').2 hj.present
  rw [heq] at hk' hord
  rcases List.mem_append.1 hk' with h | h
  · exact absurd hP (by simpa using has k' h)
  · rcases List.mem_cons.1 h with rfl | h
    · rw [entered_unique hi hj]
    · have := (List.pairwise_append.1 hord).2.1
      exact ((List.pairwise_cons.1 this).1 k' h i j hi hj).le

end Table

end TimedMap
