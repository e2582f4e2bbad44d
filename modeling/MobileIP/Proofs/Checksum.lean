import MobileIP.Spec.Packet
import Mathlib.Data.List.GetD
import Mathlib.Tactic

/-! The checksum of `in_cksum.c` is a sum modulo 65535, in which 0 stands for the empty sum only.
From this, what the readers accept and what the builders leave. -/

namespace MobileIP

def word (l : List UInt8) (i : ℕ) : ℕ := (l.getD i 0).toNat + 256 * (l.getD (i + 1) 0).toNat

def setWord (l : List UInt8) (i w : ℕ) : List UInt8 :=
  (l.set i (UInt8.ofNat w)).set (i + 1) (UInt8.ofNat (w / 256))

@[simp]
theorem length_setWord (l : List UInt8) (i w : ℕ) : (setWord l i w).length = l.length := by
  simp [setWord]

theorem word_lt (l : List UInt8) (i : ℕ) : word l i < 65536 := by
  have := (l.getD i 0).toNat_lt
  have := (l.getD (i + 1) 0).toNat_lt
  unfold word
  omega

theorem setWord_setWord (l : List UInt8) (i v w : ℕ) :
    setWord (setWord l i v) i w = setWord l i w := by
  unfold setWord
  rw [List.set_comm _ _ (Nat.succ_ne_self i), List.set_set, List.set_set]

theorem set_getD (l : List UInt8) (i : ℕ) : l.set i (l.getD i 0) = l := by
  by_cases hi : i < l.length
  · rw [List.getD_eq_getElem _ _ hi, List.set_getElem_self]
  · exact List.set_eq_of_length_le (by omega)

theorem setWord_word (l : List UInt8) (i : ℕ) : setWord l i (word l i) = l := by
  have hlow : UInt8.ofNat (word l i) = l.getD i 0 := by
    refine UInt8.toNat_inj.1 ?_
    have := (l.getD i 0).toNat_lt
    rw [UInt8.toNat_ofNat', word]
    omega
  have hhigh : UInt8.ofNat (word l i / 256) = l.getD (i + 1) 0 := by
    refine UInt8.toNat_inj.1 ?_
    have := (l.getD i 0).toNat_lt
    have := (l.getD (i + 1) 0).toNat_lt
    rw [UInt8.toNat_ofNat', word]
    omega
  rw [setWord, hlow, hhigh, set_getD, set_getD]

theorem take_setWord (l : List UInt8) (i w n : ℕ) :
    (setWord l i w).take n = setWord (l.take n) i w := by
  simp only [setWord, List.take_set]

theorem wordSum_le (l : List UInt8) : wordSum l ≤ 65535 * l.length := by
  fun_induction wordSum l with
  | case1 => simp
  | case2 b =>
    have := b.toNat_lt
    simp only [List.length_singleton]
    omega
  | case3 b b' rest ih =>
    have := b.toNat_lt
    have := b'.toNat_lt
    simp only [List.length_cons]
    omega

theorem wordSum_append {l : List UInt8} (h : l.length % 2 = 0) (l' : List UInt8) :
    wordSum (l ++ l') = wordSum l + wordSum l' := by
  fun_induction wordSum l with
  | case1 => simp
  | case2 b => simp at h
  | case3 b b' rest ih =>
    have hrest : rest.length % 2 = 0 := by
      simp only [List.length_cons] at h
      omega
    simp only [List.cons_append, wordSum, ih hrest]
    omega

theorem wordSum_setWord_add (l : List UInt8) (k : ℕ) {w : ℕ} (hk : 2 * k + 1 < l.length)
    (hw : w < 65536) : wordSum (setWord l (2 * k) w) + word l (2 * k) = wordSum l + w := by
  induction k generalizing l with
  | zero =>
    match l, hk with
    | b :: b' :: rest, _ =>
      have hset : setWord (b :: b' :: rest) (2 * 0) w =
        UInt8.ofNat w :: UInt8.ofNat (w / 256) :: rest := rfl
      have hword : word (b :: b' :: rest) (2 * 0) = b.toNat + 256 * b'.toNat := rfl
      rw [hset, hword, wordSum, wordSum, UInt8.toNat_ofNat', UInt8.toNat_ofNat']
      omega
  | succ k ih =>
    match l, hk with
    | b :: b' :: rest, hk =>
      have hrest := ih rest (by simp only [List.length_cons] at hk; omega)
      have hset : setWord (b :: b' :: rest) (2 * (k + 1)) w = b :: b' :: setWord rest (2 * k) w :=
        rfl
      have hword : word (b :: b' :: rest) (2 * (k + 1)) = word rest (2 * k) := rfl
      rw [hset, hword, wordSum, wordSum]
      omega

theorem wordSum_setWord {l : List UInt8} {i w : ℕ} (hi : i % 2 = 0) (hl : i + 1 < l.length)
    (hw : w < 65536) : wordSum (setWord l i w) = wordSum (setWord l i 0) + w := by
  obtain ⟨k, rfl⟩ : ∃ k, i = 2 * k := ⟨i / 2, by omega⟩
  have hset := wordSum_setWord_add l k hl hw
  have hclear := wordSum_setWord_add l k hl (show 0 < 65536 by decide)
  omega

theorem head_le_wordSum (l : List UInt8) : (l.getD 0 0).toNat ≤ wordSum l := by
  fun_cases wordSum l
  · simp
  · simp
  · simp only [List.getD_cons_zero]
    omega

theorem wordSum_setWord_ne_zero {l : List UInt8} {i : ℕ} (hi : 0 < i) (h : l.getD 0 0 ≠ 0) (w : ℕ) :
    wordSum (setWord l i w) ≠ 0 := by
  have hhead : (setWord l i w).getD 0 0 = l.getD 0 0 := by
    simp [setWord, hi.ne']
  have hle := head_le_wordSum (setWord l i w)
  rw [hhead] at hle
  have hne : (l.getD 0 0).toNat ≠ 0 := fun h0 => h (UInt8.toNat_inj.1 h0)
  omega

theorem foldCarries_le (sum : ℕ) : foldCarries sum ≤ 65535 := by
  unfold foldCarries
  dsimp only
  omega

theorem foldCarries_eq {sum : ℕ} (h : sum < 4294967296) :
    foldCarries sum = if sum % 65536 + sum / 65536 < 65536 then sum % 65536 + sum / 65536
      else sum % 65536 + sum / 65536 - 65535 := by
  have hle : sum % 65536 + sum / 65536 ≤ 131070 := by omega
  unfold foldCarries
  dsimp only
  generalize sum % 65536 + sum / 65536 = folded at hle ⊢
  split_ifs with hlt
  · rw [Nat.div_eq_of_lt hlt, add_zero, Nat.mod_eq_of_lt hlt]
  · omega

theorem foldCarries_mod {sum : ℕ} (h : sum < 4294967296) :
    foldCarries sum % 65535 = sum % 65535 := by
  rw [foldCarries_eq h]
  split_ifs <;> omega

theorem foldCarries_eq_zero_iff {sum : ℕ} (h : sum < 4294967296) :
    foldCarries sum = 0 ↔ sum = 0 := by
  rw [foldCarries_eq h]
  split_ifs <;> omega

theorem wordSum_lt {l : List UInt8} (h : l.length ≤ 65536) : wordSum l < 4294967296 := by
  have := wordSum_le l
  omega

theorem clickInCksum_eq_zero_iff {l : List UInt8} (h : l.length ≤ 65536) :
    clickInCksum l = 0 ↔ wordSum l % 65535 = 0 ∧ wordSum l ≠ 0 := by
  have hlt := wordSum_lt h
  have hle := foldCarries_le (wordSum l)
  have hmod := foldCarries_mod hlt
  have hzero := foldCarries_eq_zero_iff hlt
  unfold clickInCksum
  omega

theorem clickInCksum_ne_all_ones {l : List UInt8} (h : l.length ≤ 65536) (h0 : wordSum l ≠ 0) :
    clickInCksum l ≠ 65535 := by
  have hzero := (foldCarries_eq_zero_iff (wordSum_lt h)).not.2 h0
  have hle := foldCarries_le (wordSum l)
  unfold clickInCksum
  omega

section Header

variable {l : List UInt8} {i : ℕ} (hi : i % 2 = 0) (hil : i + 1 < l.length) (hl : l.length ≤ 65536)
  (h0 : wordSum (setWord l i 0) ≠ 0)

include hi hil hl h0

theorem clickInCksum_setWord :
    clickInCksum (setWord l i (clickInCksum (setWord l i 0))) = 0 := by
  have hlt : wordSum (setWord l i 0) < 4294967296 := wordSum_lt (by simpa using hl)
  have hle := foldCarries_le (wordSum (setWord l i 0))
  have hmod := foldCarries_mod hlt
  have hw : clickInCksum (setWord l i 0) < 65536 := by unfold clickInCksum; omega
  rw [clickInCksum_eq_zero_iff (by simpa using hl), wordSum_setWord hi hil hw]
  unfold clickInCksum
  omega

/-- A checksum is the one that is computed with its word cleared, if the sum of all words is a
multiple of 65535 and the checksum is not 65535: the sum has no other word for that than 0. -/
theorem clickInCksum_cleared_iff :
    clickInCksum (setWord l i 0) = word l i ↔ word l i ≠ 65535 ∧ wordSum l % 65535 = 0 := by
  have hlt : wordSum (setWord l i 0) < 4294967296 := wordSum_lt (by simpa using hl)
  have hle := foldCarries_le (wordSum (setWord l i 0))
  have hmod := foldCarries_mod hlt
  have hzero := foldCarries_eq_zero_iff hlt
  have hsum : wordSum l = wordSum (setWord l i 0) + word l i := by
    rw [← wordSum_setWord hi hil (word_lt l i), setWord_word]
  have hword := word_lt l i
  rw [hsum]
  unfold clickInCksum
  omega

end Header

namespace Packet

variable (p : Packet)

theorem slice_setU16 (f i w n : ℕ) :
    (p.setU16 (f + i) w).slice f n = setWord (p.slice f n) i w := by
  simp only [setU16, setU8, slice, add_assoc, ← List.set_drop, List.take_set, setWord]

theorem length_slice_le (f n : ℕ) : (p.slice f n).length ≤ n := List.length_take_le _ _

theorem slice_add (f n m : ℕ) : p.slice f (n + m) = p.slice f n ++ p.slice (f + n) m := by
  rw [slice, List.take_add, List.drop_drop]
  rfl

theorem getD_slice {f i n : ℕ} (h : i < n) : (p.slice f n).getD i 0 = p.u8 (f + i) := by
  simp [slice, u8, h]

theorem word_slice {f i n : ℕ} (h : i + 1 < n) : word (p.slice f n) i = p.u16 (f + i) := by
  rw [word, u16, p.getD_slice (by omega), p.getD_slice h, add_assoc]

theorem setU16_setU16_u16 (i w : ℕ) : (p.setU16 i w).setU16 i (p.u16 i) = p := by
  have hbuffer : setWord (setWord p.buffer i w) i (word p.buffer i) = p.buffer := by
    rw [setWord_setWord, setWord_word]
  exact congrArg (fun buffer => { p with buffer := buffer }) hbuffer

end Packet

theorem processIPHeader_ok {p p' : Packet} {format : ℕ} {ip : IPHeader}
    (hn : p.networkHeader = some format) (h : processIPHeader p = (.ok ip, p')) :
    ip = ⟨p.inAddr (format + 12), p.inAddr (format + 16)⟩ ∧ p' = p := by
  simp only [processIPHeader, hn] at h
  split_ifs at h
  · cases h
  · cases h
  · cases h
    exact ⟨rfl, p.setU16_setU16_u16 _ _⟩

section Reader

variable {p : Packet} {format : ℕ}
  (hlen : format + 20 ≤ p.buffer.length) (hversion : p.u8 format ≠ 0)

include hlen hversion

theorem computed_iff : clickInCksum ((p.setU16 (format + 10) 0).slice format 20) =
    p.u16 (format + 10) ↔
      p.u16 (format + 10) ≠ 65535 ∧ wordSum (p.slice format 20) % 65535 = 0 := by
  have hlength : (p.slice format 20).length = 20 := by
    simp only [Packet.slice, List.length_take, List.length_drop]
    omega
  have hword : word (p.slice format 20) 10 = p.u16 (format + 10) := p.word_slice (by decide)
  have hsum : wordSum (setWord (p.slice format 20) 10 0) ≠ 0 := by
    refine wordSum_setWord_ne_zero (by decide) ?_ 0
    rw [p.getD_slice (by decide)]
    exact hversion
  rw [p.slice_setU16, ← hword]
  exact clickInCksum_cleared_iff rfl (by omega) (by omega) hsum

theorem processIPHeader_ok_iff (hn : p.networkHeader = some format) :
    (∃ ip, (processIPHeader p).1 = .ok ip) ↔ p.u16 (format + 10) ≠ 0 ∧
      p.u16 (format + 10) ≠ 65535 ∧ wordSum (p.slice format 20) % 65535 = 0 := by
  rw [← computed_iff hlen hversion]
  simp only [processIPHeader, hn]
  split_ifs with hzero hcomputed
  · exact iff_of_false (by simp) fun h => h.1 hzero
  · exact iff_of_false (by simp) fun h => hcomputed h.2
  · exact iff_of_true ⟨_, rfl⟩ ⟨hzero, not_not.1 hcomputed⟩

theorem processIPHeader_of_verifies (hv : clickInCksum (p.slice format 20) = 0)
    (hw : p.u16 (format + 10) ≠ 0) (hn : p.networkHeader = some format)
    (h : p.u16 (format + 10) ≠ 65535) :
    processIPHeader p = (.ok ⟨p.inAddr (format + 12), p.inAddr (format + 16)⟩, p) := by
  have hsum := (clickInCksum_eq_zero_iff ((p.length_slice_le format 20).trans (by decide))).1 hv
  have hcomputed := (computed_iff hlen hversion).2 ⟨h, hsum.1⟩
  simp only [processIPHeader, hn, if_neg hw, hcomputed, ne_eq, not_true_eq_false, if_false,
    Packet.setU16_setU16_u16]

theorem processIPHeader_of_all_ones (hn : p.networkHeader = some format)
    (h : p.u16 (format + 10) = 65535) :
    (processIPHeader p).1 = .error (.invalidChecksum "IP Header") := by
  have hw : p.u16 (format + 10) ≠ 0 := by omega
  have hcomputed := mt (computed_iff hlen hversion).1 fun hne => hne.1 h
  simp only [processIPHeader, hn, if_neg hw, ne_eq, hcomputed, not_false_eq_true, if_true]

end Reader

end MobileIP
