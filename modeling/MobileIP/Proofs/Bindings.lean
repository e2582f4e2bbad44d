import MobileIP.Lib.TimedMap
import MobileIP.Proofs.Lists

/-! `MobilityBindingList` is a timed map from pairs of home and care-of address to lifetimes. -/

namespace MobileIP

inductive BindingOp where
  | add (homeAddress careOfAddress : IPAddress) (lifetime : UInt32)
  | remove (homeAddress careOfAddress : IPAddress)
  | removeAll (homeAddress : IPAddress)
  | decreaseLifetime

namespace BindingOp

def apply (l : MobilityBindingList) : BindingOp → MobilityBindingList
  | .add h c lifetime => MobilityBindingList.add h c lifetime l
  | .remove h c => MobilityBindingList.remove h c l
  | .removeAll h => MobilityBindingList.removeAll h l
  | .decreaseLifetime => MobilityBindingList.decreaseLifetime l

def run (ops : List BindingOp) : MobilityBindingList := ops.foldl apply []

def Valid : BindingOp → Prop
  | .add _ _ lifetime => 1 ≤ lifetime ∧ lifetime ≤ 65535
  | _ => True

instance : DecidablePred Valid
  | .add _ _ lifetime => inferInstanceAs (Decidable (1 ≤ lifetime ∧ lifetime ≤ 65535))
  | .remove _ _ => .isTrue trivial
  | .removeAll _ => .isTrue trivial
  | .decreaseLifetime => .isTrue trivial

def timed : BindingOp → TimedMap.Op (IPAddress × IPAddress)
  | .add h c lifetime => .add (h, c) lifetime.toNat
  | .remove h c => .remove fun k => decide (k.1 = h ∧ k.2 = c)
  | .removeAll h => .remove fun k => decide (k.1 = h)
  | .decreaseLifetime => .tick

theorem run_snoc (ops : List BindingOp) (op : BindingOp) :
    run (ops ++ [op]) = apply (run ops) op := by
  simp [run, List.foldl_append]

theorem Valid.timed {op : BindingOp} (h : op.Valid) : op.timed.Valid 65535 := by
  cases op with
  | add _ _ lifetime => exact ⟨UInt32.le_iff_toNat_le.1 h.1, UInt32.le_iff_toNat_le.1 h.2⟩
  | remove _ _ => trivial
  | removeAll _ => trivial
  | decreaseLifetime => trivial

end BindingOp

namespace MobilityBindingList

def entry (it : MobilityBindingListItem) : (IPAddress × IPAddress) × ℕ :=
  ((it.homeAddress, it.careOfAddress), it.remainingLifetime.toNat)

theorem entry_injective : Function.Injective entry := by
  intro it it' heq
  obtain ⟨h, c, r⟩ := it
  obtain ⟨h', c', r'⟩ := it'
  simp only [entry, Prod.mk.injEq, UInt32.toNat_inj] at heq
  obtain ⟨⟨rfl, rfl⟩, rfl⟩ := heq
  rfl

theorem entry_add (h c : IPAddress) (lifetime : UInt32) (l : MobilityBindingList) :
    (add h c lifetime l).map entry = TimedMap.upsert (h, c) lifetime.toNat (l.map entry) := by
  induction l with
  | nil => rfl
  | cons it rest ih =>
    by_cases hc : it.homeAddress = h ∧ it.careOfAddress = c
    · obtain ⟨rfl, rfl⟩ := hc
      simp [add, TimedMap.upsert, entry]
    · have hk : (entry it).1 ≠ (h, c) := by simpa [entry] using hc
      rw [add, if_neg hc, List.map_cons, List.map_cons, TimedMap.upsert, if_neg hk, ih]

theorem entry_countDown {it : MobilityBindingListItem} (hpos : it.remainingLifetime ≠ 0) :
    (countDown it).map entry = TimedMap.countDown 65535 (entry it) := by
  have hinf : it.remainingLifetime = 65535 ↔ (entry it).2 = 65535 := by
    rw [← UInt32.toNat_inj]; rfl
  have hone : it.remainingLifetime - 1 ≠ 0 ↔ (entry it).2 - 1 ≠ 0 := by
    rw [← toNat_ne_zero, toNat_pred hpos]; rfl
  by_cases h1 : it.remainingLifetime = 65535
  · rw [countDown, if_pos h1, TimedMap.countDown, if_pos (hinf.1 h1)]; rfl
  · rw [countDown, if_neg h1, TimedMap.countDown, if_neg fun h => h1 (hinf.2 h)]
    by_cases h2 : it.remainingLifetime - 1 ≠ 0
    · rw [if_pos h2, if_pos (hone.1 h2), Option.map_some]
      simp [entry, toNat_pred hpos]
    · rw [if_neg h2, if_neg fun h => h2 (hone.2 h)]; rfl

theorem entry_decreaseLifetime {l : MobilityBindingList}
    (hpos : ∀ it ∈ l, it.remainingLifetime ≠ 0) :
    (decreaseLifetime l).map entry = (l.map entry).filterMap (TimedMap.countDown 65535) := by
  rw [decreaseLifetime_eq, List.map_filterMap, List.filterMap_map]
  apply List.filterMap_congr
  intro it hit
  exact entry_countDown (hpos it hit)

/-- The list refines the timed map, call by call. -/
theorem entry_run {ops : List BindingOp} (hv : ∀ op ∈ ops, op.Valid) :
    (BindingOp.run ops).map entry = TimedMap.run 65535 (ops.map BindingOp.timed) := by
  induction ops using List.reverseRecOn with
  | nil => rfl
  | append_singleton ops op ih =>
    have hv' : ∀ o ∈ ops, o.Valid := fun o ho => hv o (by simp [ho])
    have ih := ih hv'
    rw [BindingOp.run_snoc, List.map_append, List.map_singleton, TimedMap.run_snoc, ← ih]
    cases op with
    | add h c lifetime => exact entry_add h c lifetime _
    | remove h c =>
      simp only [BindingOp.apply, BindingOp.timed, TimedMap.apply, remove_eq, List.filter_map]
      rfl
    | removeAll h =>
      simp only [BindingOp.apply, BindingOp.timed, TimedMap.apply, removeAll_eq, List.filter_map]
      rfl
    | decreaseLifetime =>
      refine entry_decreaseLifetime fun it hit => ?_
      -- an entry of the table is live, and what is live has time left
      have hmem : ((it.homeAddress, it.careOfAddress), it.remainingLifetime.toNat) ∈
          TimedMap.run 65535 (ops.map BindingOp.timed) := by
        rw [← ih]; exact List.mem_map_of_mem hit
      have hvalid : ∀ o ∈ ops.map BindingOp.timed, o.Valid 65535 :=
        List.forall_mem_map.2 fun o ho => (hv' o ho).timed
      have hlive := (TimedMap.mem_run_iff hvalid _ _).1 hmem
      exact toNat_ne_zero.1 (by have := hlive.bounds hvalid; omega)

/-- Every sequence of calls leaves the list that the history of the calls prescribes: the pairs of
addresses are distinct, an entry is there exactly as long as it is live, with the lifetime it has
left, and the look-ups by home address see exactly the live entries, the earliest of them first. -/
theorem bindings_refine_timed_map (ops : List BindingOp) (hv : ∀ op ∈ ops, op.Valid) :
    ((BindingOp.run ops).map fun it => (it.homeAddress, it.careOfAddress)).Nodup ∧
    (∀ h c r, (⟨h, c, r⟩ : MobilityBindingListItem) ∈ BindingOp.run ops ↔
      TimedMap.Live 65535 (ops.map BindingOp.timed) (h, c) r.toNat) ∧
    (∀ h, isMobileBinded h (BindingOp.run ops) = true ↔
      ∃ c, TimedMap.Present 65535 (ops.map BindingOp.timed) (h, c)) ∧
    ∀ h, isMobileBinded h (BindingOp.run ops) = true →
      ∃ i, TimedMap.Entered 65535 (ops.map BindingOp.timed)
          (h, getCareOfAddress h (BindingOp.run ops)) i ∧
        ∀ c j, TimedMap.Entered 65535 (ops.map BindingOp.timed) (h, c) j → i ≤ j := by
  have hvalid : ∀ o ∈ ops.map BindingOp.timed, o.Valid 65535 :=
    List.forall_mem_map.2 fun o ho => (hv o ho).timed
  have hkeys : (BindingOp.run ops).map (fun it => (it.homeAddress, it.careOfAddress)) =
      (TimedMap.run 65535 (ops.map BindingOp.timed)).map Prod.fst := by
    rw [← entry_run hv, List.map_map]; rfl
  have hbound : ∀ h, isMobileBinded h (BindingOp.run ops) = true ↔
      ∃ c, TimedMap.Present 65535 (ops.map BindingOp.timed) (h, c) := by
    intro h
    simp only [isMobileBinded_iff, ← TimedMap.mem_keys_iff hvalid, ← hkeys, List.mem_map,
      Prod.mk.injEq]
    constructor
    · intro hbound
      obtain ⟨it, hit, rfl⟩ := hbound
      exact ⟨it.careOfAddress, it, hit, rfl, rfl⟩
    · intro hentry
      obtain ⟨c, it, hit, rfl, rfl⟩ := hentry
      exact ⟨it, hit, rfl⟩
  refine ⟨?_, ?_, hbound, ?_⟩
  · rw [hkeys]; exact TimedMap.keys_nodup _
  · intro h c r
    rw [← TimedMap.mem_run_iff hvalid, ← entry_run hv]
    exact (List.mem_map_of_injective entry_injective).symm
  · intro h hb
    obtain ⟨it, hit, hh⟩ := (isMobileBinded_iff h _).1 hb
    -- the look-up takes the first entry of `h`, and that one entered first
    obtain ⟨first, hfirst⟩ := Option.isSome_iff_exists.1
      (List.find?_isSome.2 ⟨it, hit, by simpa using hh⟩ :
        ((BindingOp.run ops).find? fun x => decide (x.homeAddress = h)).isSome)
    have hhome : first.homeAddress = h := by simpa using List.find?_some hfirst
    have hcare : getCareOfAddress h (BindingOp.run ops) = first.careOfAddress := by
      rw [getCareOfAddress_eq, hfirst]; rfl
    have hfind : ((TimedMap.run 65535 (ops.map BindingOp.timed)).map Prod.fst).find?
        (fun k => decide (k.1 = h)) = some (h, first.careOfAddress) := by
      rw [← hkeys, List.find?_map]
      simp only [Function.comp_def, hfirst, Option.map_some, hhome]
    obtain ⟨i, hi, hmin⟩ := TimedMap.find_earliest hvalid hfind
    rw [hcare]
    exact ⟨i, hi, fun c j hj => hmin (h, c) j (by simp) hj⟩

/-- Two bindings of one home address, and the look-up finds the one that entered first. -/
theorem bindings_refine_timed_map_two_moves :
    let h : IPAddress := ⟨192, 168, 2, 1⟩
    let ops : List BindingOp := [.add h ⟨192, 168, 0, 3⟩ 5, .decreaseLifetime,
      .add h ⟨192, 168, 0, 4⟩ 3, .decreaseLifetime]
    isMobileBinded h (BindingOp.run ops) = true ∧
      getCareOfAddress h (BindingOp.run ops) = ⟨192, 168, 0, 3⟩ ∧
      ∃ i, TimedMap.Entered 65535 (ops.map BindingOp.timed) (h, ⟨192, 168, 0, 3⟩) i ∧
        ∀ c j, TimedMap.Entered 65535 (ops.map BindingOp.timed) (h, c) j → i ≤ j := by
  intro h ops
  have hcare : getCareOfAddress h (BindingOp.run ops) = ⟨192, 168, 0, 3⟩ := by decide
  have hfirst := (bindings_refine_timed_map ops (by decide)).2.2.2 h (by decide)
  rw [hcare] at hfirst
  exact ⟨by decide, hcare, hfirst⟩

end MobilityBindingList

end MobileIP
