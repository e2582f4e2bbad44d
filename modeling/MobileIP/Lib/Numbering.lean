import Mathlib.Data.List.Chain

/-! Messages with sequence numbers. A sender numbers its messages from 0; after `hi` it goes on with
`lo`, so that a number below `lo` is used once, unless the sender starts anew from 0. A receiver
counts the messages it hears, and takes one that has a number below `lo` other than the one it waits
for as a sign that the sender has started anew. -/

namespace Numbering

structure Message where
  number : ℕ
  /-- the first since the sender started anew -/
  restarted : Bool

variable {lo hi n c : ℕ} {m : Message} {l heard : List Message}

def next (lo hi n : ℕ) : ℕ := if n = hi then lo else n + 1

/-- The messages of a sender that goes on with `n`, unless it starts anew. -/
def Numbered (lo hi : ℕ) : ℕ → List Message → Prop
  | _, [] => True
  | n, m :: l => m.number = (if m.restarted then 0 else n) ∧ Numbered lo hi (next lo hi m.number) l

/-- A receiver that has counted up to `c` takes the message for the first of a new start. -/
def Detects (lo c : ℕ) (m : Message) : Prop := m.number < lo ∧ m.number ≠ c + 1

instance (lo c : ℕ) (m : Message) : Decidable (Detects lo c m) :=
  inferInstanceAs (Decidable (_ ∧ _))

def count (lo c : ℕ) (m : Message) : ℕ := if Detects lo c m then m.number else c + 1

/-- For each message heard, whether the receiver takes it for the first of a new start. -/
def verdicts (lo : ℕ) : ℕ → List Message → List Bool
  | _, [] => []
  | c, m :: l => decide (Detects lo c m) :: verdicts lo (count lo c m) l

/-- The count is below `B` whenever a message with a number below `lo` is heard. -/
def Within (lo B : ℕ) : ℕ → List Message → Prop
  | _, [] => True
  | c, m :: l => (m.number < lo → c < B) ∧ Within lo B (count lo c m) l

theorem count_of_lt (h : m.number < lo) : count lo c m = m.number := by
  by_cases hd : Detects lo c m
  · rw [count, if_pos hd]
  · rw [count, if_neg hd]
    unfold Detects at hd
    omega

theorem Numbered.append (h : Numbered lo hi n (heard ++ m :: l)) :
    Numbered lo hi (next lo hi m.number) l := by
  induction heard generalizing n with
  | nil => exact h.2
  | cons _ heard ih => exact ih h.2

theorem Numbered.take (h : Numbered lo hi n (heard ++ l)) : Numbered lo hi n heard := by
  induction heard generalizing n with
  | nil => trivial
  | cons m heard ih => exact ⟨h.1, ih h.2⟩

theorem detects_iff_restarted (hi : ℕ) (hlo : 0 < lo) (hm : m.number = if m.restarted then 0 else n)
    (hc : n < lo → n = c + 1) :
    (Detects lo c m ↔ m.restarted = true) ∧ count lo c m = (if m.restarted then 0 else c + 1) ∧
      (next lo hi m.number < lo → next lo hi m.number = count lo c m + 1) := by
  unfold count next
  cases hr : m.restarted with
  | true =>
    rw [hr, if_pos rfl] at hm
    have hd : Detects lo c m := ⟨by omega, by omega⟩
    rw [if_pos hd, if_pos rfl]
    refine ⟨iff_of_true hd rfl, hm, ?_⟩
    split_ifs <;> omega
  | false =>
    rw [hr, if_neg Bool.false_ne_true] at hm
    have hd : ¬ Detects lo c m := fun hd => hd.2 (hm.trans (hc (hm ▸ hd.1)))
    rw [if_neg hd, if_neg Bool.false_ne_true]
    refine ⟨iff_of_false hd Bool.false_ne_true, rfl, ?_⟩
    rw [hm]
    split_ifs <;> omega

/-- A receiver that hears all messages detects every new start, and nothing else. -/
theorem verdicts_eq (hlo : 0 < lo) (h : Numbered lo hi n l) (hc : n < lo → n = c + 1) :
    verdicts lo c l = l.map Message.restarted := by
  induction l generalizing n c with
  | nil => rfl
  | cons m l ih =>
    obtain ⟨hd, -, hnext⟩ := detects_iff_restarted hi hlo h.1 hc
    have hhead : decide (Detects lo c m) = m.restarted := by
      rw [Bool.eq_iff_iff, decide_eq_true_iff, hd]
    rw [verdicts, List.map_cons, ih h.2 hnext, hhead]

/-- The count stays below `B` when that leaves room for the messages up to the first new start, and
for those from one new start to the next. -/
theorem within_of_blocks {B : ℕ} (hlo : 0 < lo) (h : Numbered lo hi n l) (hc : n < lo → n = c + 1)
    (hfirst : ∀ b post, l = b ++ post → (∀ m ∈ b, m.restarted = false) → c + b.length < B)
    (hblocks : ∀ pre b post, l = pre ++ (b ++ post) → (∀ m ∈ b, m.restarted = false) →
      b.length < B) : Within lo B c l := by
  induction l generalizing n c with
  | nil => trivial
  | cons m l ih =>
    obtain ⟨-, hcount, hnext⟩ := detects_iff_restarted hi hlo h.1 hc
    refine ⟨fun _ => hfirst [] _ rfl (by simp), ih h.2 hnext ?_ ?_⟩
    · intro b post hl hb
      rw [hcount]
      cases hr : m.restarted with
      | true =>
        have := hblocks [m] b post (by rw [hl]; rfl) hb
        simpa using this
      | false =>
        have := hfirst (m :: b) post (by rw [hl]; rfl) (List.forall_mem_cons.2 ⟨hr, hb⟩)
        simp only [List.length_cons, Bool.false_eq_true, if_false] at this ⊢
        omega
    · intro pre b post hl
      exact hblocks (m :: pre) b post (by rw [hl]; rfl)

theorem Numbered.le_number (h : Numbered lo hi n l) (hr : ∀ m ∈ l, m.restarted = false) :
    ∀ m ∈ l, m.number < lo → n ≤ m.number := by
  induction l generalizing n with
  | nil => simp
  | cons m l ih =>
    obtain ⟨hm, hl⟩ := h
    rw [List.forall_mem_cons] at hr
    rw [hr.1, if_neg Bool.false_ne_true] at hm
    intro m' hm' hlt
    rcases List.mem_cons.1 hm' with rfl | hm'
    · omega
    · have hle := ih hl hr.2 m' hm' hlt
      unfold next at hle
      split_ifs at hle <;> omega

theorem Numbered.pairwise (h : Numbered lo hi n l) (hr : ∀ m ∈ l, m.restarted = false) :
    l.Pairwise fun m m' => m'.number < lo → m.number < m'.number := by
  induction l generalizing n with
  | nil => exact List.Pairwise.nil
  | cons m l ih =>
    rw [List.forall_mem_cons] at hr
    refine List.Pairwise.cons ?_ (ih h.2 hr.2)
    intro m' hm' hlt
    have hle := h.2.le_number hr.2 m' hm' hlt
    unfold next at hle
    split_ifs at hle <;> omega

/-- No message that uses a number below `lo` was missed before the second of the two. -/
def Gapless (lo : ℕ) (m m' : Message) : Prop := m'.number < lo → m'.number = m.number + 1

/-- A receiver that hears some of the messages detects no new start exactly if it missed none before
one that has a number below `lo`. -/
theorem verdicts_eq_false_iff
    (hinc : (m :: heard).Pairwise fun m m' => m'.number < lo → m.number < m'.number)
    (hc : m.number < lo → c = m.number) :
    (∀ v ∈ verdicts lo c heard, v = false) ↔ (m :: heard).IsChain (Gapless lo) := by
  induction heard generalizing m c with
  | nil => simp [verdicts]
  | cons m' heard ih =>
    rw [List.pairwise_cons] at hinc
    have hlt := hinc.1 m' List.mem_cons_self
    have hhead : ¬ Detects lo c m' ↔ Gapless lo m m' := by
      unfold Detects Gapless
      constructor
      · intro hd hlo
        have := hlt hlo
        have := hc (by omega)
        by_contra hne
        exact hd ⟨hlo, by omega⟩
      · intro hg hd
        have := hlt hd.1
        have := hc (by omega)
        have := hg hd.1
        exact hd.2 (by omega)
    rw [verdicts, List.forall_mem_cons, decide_eq_false_iff_not, List.isChain_cons_cons, hhead]
    exact and_congr_right fun _ => ih hinc.2 count_of_lt

theorem within_of_pairwise {B : ℕ} (hB : lo ≤ B)
    (hinc : (m :: heard).Pairwise fun m m' => m'.number < lo → m.number < m'.number)
    (hc : m.number < lo → c = m.number) : Within lo B c heard := by
  induction heard generalizing m c with
  | nil => trivial
  | cons m' heard ih =>
    rw [List.pairwise_cons] at hinc
    refine ⟨fun hlt => ?_, ih hinc.2 count_of_lt⟩
    have := hinc.1 m' List.mem_cons_self hlt
    have := hc (by omega)
    omega

end Numbering
