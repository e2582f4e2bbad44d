import MobileIP.Proofs.Checksum
import MobileIP.Spec.Definitions

/-! What the readers do to the packet: a checksum is cleared while it is recomputed, and put back
only if it was right. -/

namespace MobileIP

variable {p : Packet}

theorem word_setWord_zero (l : List UInt8) (i : ℕ) : word (setWord l i 0) i = 0 := by
  have hlow : (setWord l i 0).getD i 0 = 0 := by
    simp only [setWord, List.getD_eq_getElem?_getD, List.getElem?_set]
    split_ifs <;> rfl
  have hhigh : (setWord l i 0).getD (i + 1) 0 = 0 := by
    simp only [setWord, List.getD_eq_getElem?_getD, List.getElem?_set]
    split_ifs <;> rfl
  rw [word, hlow, hhigh]
  rfl

theorem Packet.setU16_zero_buffer_iff (p : Packet) (i : ℕ) :
    (p.setU16 i 0).buffer = p.buffer ↔ p.u16 i = 0 := by
  change setWord p.buffer i 0 = p.buffer ↔ word p.buffer i = 0
  constructor
  · intro heq
    rw [← heq, word_setWord_zero]
  · intro hword
    rw [← hword, setWord_word]

def HeaderIntact (p : Packet) : Prop :=
  ∀ format, p.networkHeader = some format → p.u16 (format + 10) = 0 ∨
    clickInCksum ((p.setU16 (format + 10) 0).slice format 20) = p.u16 (format + 10)

theorem processIPHeader_buffer_iff (p : Packet) :
    (processIPHeader p).2.buffer = p.buffer ↔ HeaderIntact p := by
  cases hn : p.networkHeader with
  | none => simp [processIPHeader, HeaderIntact, hn]
  | some format =>
    simp only [HeaderIntact, processIPHeader, hn, Option.some.injEq, forall_eq']
    split_ifs with hzero hsum
    · exact iff_of_true rfl (Or.inl hzero)
    · rw [p.setU16_zero_buffer_iff, or_iff_left hsum]
    · rw [p.setU16_setU16_u16]
      exact iff_of_true rfl (Or.inr (not_not.1 hsum))

def ChecksumRight (size : ℕ) (p : Packet) : Prop :=
  clickInCksum ((p.setU16 (p.data + 20 + 2) 0).slice (p.data + 20) size) = p.u16 (p.data + 20 + 2)

instance (size : ℕ) (p : Packet) : Decidable (ChecksumRight size p) :=
  inferInstanceAs (Decidable (_ = _))

theorem processRouterAdvertisementMessage_snd (p : Packet) :
    (processRouterAdvertisementMessage p).2 =
      if ChecksumRight 28 p then (processIPHeader p).2 else p.setU16 (p.data + 20 + 2) 0 := by
  simp only [processRouterAdvertisementMessage]
  by_cases hsum : ChecksumRight 28 p
  · rw [if_pos hsum]
    unfold ChecksumRight at hsum
    rw [if_neg (not_not.2 hsum), p.setU16_setU16_u16]
    rcases processIPHeader p with ⟨e | ip, p'⟩
    · rfl
    · rfl
  · rw [if_neg hsum]
    unfold ChecksumRight at hsum
    rw [if_pos hsum]

theorem processRouterSolicitationMessage_snd (p : Packet) :
    (processRouterSolicitationMessage p).2 =
      if ChecksumRight 8 p then (processIPHeader p).2 else p.setU16 (p.data + 20 + 2) 0 := by
  simp only [processRouterSolicitationMessage]
  by_cases hsum : ChecksumRight 8 p
  · rw [if_pos hsum]
    unfold ChecksumRight at hsum
    rw [if_neg (not_not.2 hsum), p.setU16_setU16_u16]
    rcases processIPHeader p with ⟨e | ip, p'⟩
    · rfl
    · rfl
  · rw [if_neg hsum]
    unfold ChecksumRight at hsum
    rw [if_pos hsum]

/-- A message whose checksum is right leaves it to the header; otherwise the checksum has to be 0. -/
def MessageIntact (size : ℕ) (p : Packet) : Prop :=
  if ChecksumRight size p then HeaderIntact p else p.u16 (p.data + 20 + 2) = 0

theorem buffer_iff_messageIntact (size : ℕ) (p : Packet) :
    (if ChecksumRight size p then (processIPHeader p).2
      else p.setU16 (p.data + 20 + 2) 0).buffer = p.buffer ↔ MessageIntact size p := by
  rw [MessageIntact]
  split_ifs
  · exact processIPHeader_buffer_iff p
  · exact p.setU16_zero_buffer_iff _

def afterHeaders (p : Packet) : Packet :=
  match processUDPHeader p with
  | .error _ => p
  | .ok _ => (processIPHeader p).2

theorem processRegistrationRequestPacket_snd (p : Packet) :
    (processRegistrationRequestPacket p).2 = afterHeaders p := by
  simp only [processRegistrationRequestPacket, afterHeaders]
  rcases processUDPHeader p with e | udp
  · rfl
  · rcases processIPHeader p with ⟨e | ip, p'⟩
    · rfl
    · rfl

theorem processRegistrationReplyPacket_snd (p : Packet) :
    (processRegistrationReplyPacket p).2 = afterHeaders p := by
  simp only [processRegistrationReplyPacket, afterHeaders]
  rcases processUDPHeader p with e | udp
  · rfl
  · rcases processIPHeader p with ⟨e | ip, p'⟩
    · rfl
    · rfl

/-- The readers of registrations leave it to the header, unless they throw before. -/
def RegistrationIntact (p : Packet) : Prop :=
  (∃ e, processUDPHeader p = .error e) ∨ HeaderIntact p

theorem afterHeaders_buffer_iff (p : Packet) :
    (afterHeaders p).buffer = p.buffer ↔ RegistrationIntact p := by
  unfold afterHeaders RegistrationIntact
  rcases processUDPHeader p with e | udp
  · exact iff_of_true rfl (Or.inl ⟨e, rfl⟩)
  · rw [or_iff_right fun ⟨e, he⟩ => nomatch he]
    exact processIPHeader_buffer_iff p

/-- The readers leave the bytes of a packet as they were, exactly if no checksum is found to be wrong
other than one that is 0. -/
theorem readers_leave_packet_iff (p : Packet) :
    ((processIPHeader p).2.buffer = p.buffer ↔ HeaderIntact p) ∧
      ((processRouterAdvertisementMessage p).2.buffer = p.buffer ↔ MessageIntact 28 p) ∧
      ((processRouterSolicitationMessage p).2.buffer = p.buffer ↔ MessageIntact 8 p) ∧
      ((processRegistrationRequestPacket p).2.buffer = p.buffer ↔ RegistrationIntact p) ∧
      ((processRegistrationReplyPacket p).2.buffer = p.buffer ↔ RegistrationIntact p) := by
  refine ⟨processIPHeader_buffer_iff p, ?_, ?_, ?_, ?_⟩
  · rw [processRouterAdvertisementMessage_snd]
    exact buffer_iff_messageIntact 28 p
  · rw [processRouterSolicitationMessage_snd]
    exact buffer_iff_messageIntact 8 p
  · rw [processRegistrationRequestPacket_snd]
    exact afterHeaders_buffer_iff p
  · rw [processRegistrationReplyPacket_snd]
    exact afterHeaders_buffer_iff p

section Examples

open Definitions

/-- A solicitation with a bit of its last word flipped on the way. -/
def garbledSolicitation : Packet :=
  (ICMPIPfy buildRouterSolicitationMessage mobileNodeAddress .broadcast 1).setU8 24 1

/-- Its checksum is lost. -/
theorem garbled_solicitation_changed :
    ¬ ∀ p : Packet, (processRouterSolicitationMessage p).2.buffer = p.buffer :=
  fun hall => absurd (hall garbledSolicitation) (by decide)

end Examples

end MobileIP
