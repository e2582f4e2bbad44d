import MobileIP.Proofs.Advertisements
import MobileIP.Spec.Classifier
import MobileIP.Spec.Definitions

/-! By which bytes a packet is classified, with and without an Ethernet header in front of it, and
where the classifier sends it. -/

namespace MobileIP

namespace MobileIPClassifier

variable {c c' : MobileIPClassifier} {type : PacketType} {port : ℤ}

def ifSet (port : ℤ) : Option ℤ := if port = -1 then none else some port

theorem mapUnlessUnset_lookup (h : mapUnlessUnset type port c = some c')
    (hnew : c.mappings.lookup type = none) :
    (∀ t, c'.mappings.lookup t = (c.mappings.lookup t).or
      (if t = type then ifSet port else none)) ∧ port ≠ 0 := by
  unfold mapUnlessUnset addMapping at h
  split_ifs at h with hunset hzero hused hsome
  · cases h
    exact ⟨fun t => by simp [ifSet, hunset], by rw [hunset]; decide⟩
  · rw [hnew] at hsome
    cases hsome
  · cases h
    refine ⟨fun t => ?_, hzero⟩
    rw [List.lookup_append]
    congr 1
    by_cases ht : t = type
    · simp [ht, hunset, ifSet]
    · simp [List.lookup_cons, ht, beq_eq_false_iff_ne.2 ht]

variable {registration reply ipinip solicitation advertisement : ℤ}

/-- The port that a configuration gives for a type, -1 if it gives none. -/
def given (registration reply ipinip solicitation advertisement : ℤ) : PacketType → ℤ
  | .registration => registration
  | .reply => reply
  | .ipinip => ipinip
  | .solicitation => solicitation
  | .advertisement => advertisement
  | .unkown => -1

theorem configure_lookup
    (h : configure registration reply ipinip solicitation advertisement = some c)
    (t : PacketType) :
    c.mappings.lookup t =
      ifSet (given registration reply ipinip solicitation advertisement t) ∧
    given registration reply ipinip solicitation advertisement t ≠ 0 := by
  obtain ⟨c₁, h₁, h⟩ := Option.bind_eq_some_iff.1 h
  obtain ⟨c₂, h₂, h⟩ := Option.bind_eq_some_iff.1 h
  obtain ⟨c₃, h₃, h⟩ := Option.bind_eq_some_iff.1 h
  obtain ⟨c₄, h₄, h₅⟩ := Option.bind_eq_some_iff.1 h
  obtain ⟨l₁, n₁⟩ := mapUnlessUnset_lookup h₁ rfl
  obtain ⟨l₂, n₂⟩ := mapUnlessUnset_lookup h₂ (by rw [l₁]; simp)
  obtain ⟨l₃, n₃⟩ := mapUnlessUnset_lookup h₃ (by rw [l₂, l₁]; simp)
  obtain ⟨l₄, n₄⟩ := mapUnlessUnset_lookup h₄ (by rw [l₃, l₂, l₁]; simp)
  obtain ⟨l₅, n₅⟩ := mapUnlessUnset_lookup h₅ (by rw [l₄, l₃, l₂, l₁]; simp)
  rw [l₅, l₄, l₃, l₂, l₁]
  cases t with
  | registration => exact ⟨by simp [given], n₁⟩
  | reply => exact ⟨by simp [given], n₂⟩
  | ipinip => exact ⟨by simp [given], n₃⟩
  | solicitation => exact ⟨by simp [given], n₄⟩
  | advertisement => exact ⟨by simp [given], n₅⟩
  | unkown => exact ⟨by simp [given, ifSet], by simp [given]⟩

theorem push_eq_zero_iff
    (h : configure registration reply ipinip solicitation advertisement = some c) (p : Packet) :
    c.push p = 0 ↔
      given registration reply ipinip solicitation advertisement (getPacketType p) = -1 := by
  obtain ⟨hlookup, hne⟩ := configure_lookup h (getPacketType p)
  rw [push, hlookup, ifSet]
  by_cases hgiven :
      given registration reply ipinip solicitation advertisement (getPacketType p) = -1
  · rw [if_pos hgiven]
    exact iff_of_true rfl hgiven
  · rw [if_neg hgiven]
    exact iff_of_false hne hgiven

/-- A UDP packet over IPv4 with its header at `ip`, none of whose ports is the one of Mobile IP. -/
structure Ordinary (p : Packet) (ip : ℕ) : Prop where
  network : p.networkHeader = some ip
  version : (p.u8 ip).toNat / 16 = 4
  headerLength : 5 ≤ (p.u8 ip).toNat % 16
  protocol : p.u8 (ip + 9) = 17
  sourcePort : ntohs (p.u16 (ip + 4 * ((p.u8 ip).toNat % 16))) ≠ 434
  destinationPort : ntohs (p.u16 (ip + 4 * ((p.u8 ip).toNat % 16) + 2)) ≠ 434

/-- The byte that a UDP packet is classified by. It is looked for behind an Ethernet header if the
bytes 12 and 13 are those of its type. -/
def typeByte (p : Packet) : UInt8 :=
  p.u8 (p.data + 28 + if p.u16 (p.data + 12) = htons 0x0800 then 14 else 0)

theorem getPacketType_udp {p : Packet} {ip : ℕ} (hn : p.networkHeader = some ip)
    (hp : p.u8 (ip + 9) = 17) : getPacketType p =
      if typeByte p = 1 then .registration else if typeByte p = 3 then .reply else .unkown := by
  rw [getPacketType_eq_classify hn, hp]
  rfl

/-- Ordinary traffic is passed through exactly if it is not taken for a registration or a reply by
the first byte of its payload. -/
theorem passes_through_iff
    (h : configure registration reply ipinip solicitation advertisement = some c) {p : Packet}
    {ip : ℕ} (hp : Ordinary p ip) :
    c.push p = 0 ↔ ¬ (typeByte p = 1 ∧ registration ≠ -1) ∧ ¬ (typeByte p = 3 ∧ reply ≠ -1) := by
  rw [push_eq_zero_iff h, getPacketType_udp hp.network hp.protocol]
  by_cases h1 : typeByte p = 1
  · simp [h1, given]
  · by_cases h3 : typeByte p = 3
    · simp [h3, given]
    · simp [h1, h3, given]

section Examples

open Definitions

def byteDatagram (b : UInt8) : Packet where
  buffer := [0x45, 0] ++ net16 29 ++ [0, 0, 0, 0, 64, 17, 0, 0] ++ correspondingNodeAddress.bytes ++
    mobileNodeAddress.bytes ++ net16 1000 ++ net16 2000 ++ net16 9 ++ [0, 0, b]
  data := 0
  networkHeader := some 0
  transportHeader := 20

theorem configure_home_agent : configure 1 (-1) (-1) 2 (-1) =
    some ⟨[(.registration, 1), (.solicitation, 2)]⟩ := by decide

theorem passes_through_two :
    ∃ c, configure 1 (-1) (-1) 2 (-1) = some c ∧ c.push (byteDatagram 2) = 0 := by
  have hp : Ordinary (byteDatagram 2) 0 := ⟨rfl, by decide, by decide, rfl, by decide, by decide⟩
  exact ⟨_, configure_home_agent, (passes_through_iff configure_home_agent hp).2 (by decide)⟩

/-- The classifier on the public network of the home agent takes a packet that begins with 1 for a
registration. -/
theorem diverted_by_payload :
    ¬ ∀ registration reply ipinip solicitation advertisement c,
      configure registration reply ipinip solicitation advertisement = some c →
      ∀ p ip, Ordinary p ip → c.push p = 0 := by
  intro h
  have hp : Ordinary (byteDatagram 1) 0 := ⟨rfl, by decide, by decide, rfl, by decide, by decide⟩
  have hpush := h _ _ _ _ _ _ configure_home_agent _ _ hp
  revert hpush
  decide

end Examples

end MobileIPClassifier

theorem choice_eq_iff {a b a' b' : Prop} [Decidable a] [Decidable b] [Decidable a'] [Decidable b']
    {x y z : PacketType} (hxy : x ≠ y) (hxz : x ≠ z) (hyz : y ≠ z) (h : b → ¬ a) (h' : b' → ¬ a') :
    ((if a then x else if b then y else z) = if a' then x else if b' then y else z) ↔
      (a ↔ a') ∧ (b ↔ b') := by
  by_cases ha : a
  · have hb : ¬ b := fun hb => h hb ha
    by_cases ha' : a'
    · have hb' : ¬ b' := fun hb' => h' hb' ha'
      simp [ha, hb, ha', hb']
    · by_cases hb' : b' <;> simp [ha, ha', hb', hxy, hxz]
  · by_cases ha' : a'
    · by_cases hb : b <;> simp [ha, ha', hb, hxy.symm, hxz.symm]
    · by_cases hb : b <;> by_cases hb' : b' <;> simp [ha, ha', hb, hb', hyz, hyz.symm]

theorem classify_eq_iff (proto : UInt8) (f g : ℕ → UInt8) : classify proto f = classify proto g ↔
    (proto = 1 → (IsAdvertisement (f 20) (f 21) ↔ IsAdvertisement (g 20) (g 21)) ∧
      (f 20 = 10 ↔ g 20 = 10)) ∧
    (proto = 17 → (f 28 = 1 ↔ g 28 = 1) ∧ (f 28 = 3 ↔ g 28 = 3)) := by
  have hicmp : ∀ type code : UInt8, type = 10 → ¬ IsAdvertisement type code := by
    intro type code htype hadv
    exact absurd (htype.symm.trans hadv.1) (by decide)
  have hudp : ∀ type : UInt8, type = 3 → ¬ type = 1 := by
    intro type h3 h1
    exact absurd (h3.symm.trans h1) (by decide)
  by_cases h1 : proto = 1
  · have hchoice := choice_eq_iff (x := .advertisement) (y := .solicitation) (z := .unkown)
      (by decide) (by decide) (by decide) (hicmp (f 20) (f 21)) (hicmp (g 20) (g 21))
    have h17 : proto ≠ 17 := by
      rw [h1]
      decide
    rw [classify, classify, if_pos h1, if_pos h1, hchoice]
    exact ⟨fun h => ⟨fun _ => h, fun h' => absurd h' h17⟩, fun h => h.1 h1⟩
  · by_cases h17 : proto = 17
    · have hchoice := choice_eq_iff (x := .registration) (y := .reply) (z := .unkown)
        (by decide) (by decide) (by decide) (hudp (f 28)) (hudp (g 28))
      have h4 : proto ≠ 4 := by
        rw [h17]
        decide
      rw [classify, classify, if_neg h1, if_neg h1, if_neg h4, if_neg h4, if_pos h17, if_pos h17,
        hchoice]
      exact ⟨fun h => ⟨fun h' => absurd h' h1, fun _ => h⟩, fun h => h.2 h17⟩
    · refine iff_of_true ?_ ⟨fun h => absurd h h1, fun h => absurd h h17⟩
      rw [classify, classify, if_neg h1, if_neg h1, if_neg h17, if_neg h17]

/-- The packet is classified alike by the bytes behind its header and by those 14 further on. -/
def Alike (p : Packet) : Prop :=
  (p.u8 (p.data + 9) = 1 →
    (IsAdvertisement (p.u8 (p.data + 34)) (p.u8 (p.data + 35)) ↔
      IsAdvertisement (p.u8 (p.data + 20)) (p.u8 (p.data + 21))) ∧
    (p.u8 (p.data + 34) = 10 ↔ p.u8 (p.data + 20) = 10)) ∧
  (p.u8 (p.data + 9) = 17 →
    (p.u8 (p.data + 42) = 1 ↔ p.u8 (p.data + 28) = 1) ∧
    (p.u8 (p.data + 42) = 3 ↔ p.u8 (p.data + 28) = 3))

/-- A packet is of the same type with and without an Ethernet header exactly if its source address
does not begin with 8.0, or the bytes by which it is then classified say the same. -/
theorem framing_iff {p : Packet} (hn : p.networkHeader = some p.data)
    (source destination : EthernetAddress) :
    getPacketType p = getPacketType (etherEncap p source destination) ↔
      ¬ (p.u8 (p.data + 12) = 8 ∧ p.u8 (p.data + 13) = 0) ∨ Alike p := by
  have hether : p.u16 (p.data + 12) = htons 0x0800 ↔
      p.u8 (p.data + 12) = 8 ∧ p.u8 (p.data + 13) = 0 := by
    have h8 : htons 0x0800 = 8 := by decide
    have := (p.u8 (p.data + 12)).toNat_lt
    rw [h8, Packet.u16, ← UInt8.toNat_inj, ← UInt8.toNat_inj]
    change _ ↔ (p.u8 (p.data + 12)).toNat = 8 ∧ (p.u8 (p.data + 12 + 1)).toNat = 0
    omega
  rw [getPacketType_etherEncap hn, getPacketType_eq_classify hn]
  by_cases h : p.u8 (p.data + 12) = 8 ∧ p.u8 (p.data + 13) = 0
  · simp only [if_pos (hether.2 h)]
    rw [classify_eq_iff, or_iff_right (not_not.2 h)]
    rfl
  · refine iff_of_true ?_ (Or.inl h)
    simp only [if_neg (mt hether.1 h), add_zero]

section Examples

open Definitions

def requestOf (home : IPAddress) : Packet :=
  (UDPIPfy (buildRegistrationRequestPacket ⟨0, 0⟩ 100 home homeAgentPublicAddress
    foreignAgentPublicAddress 1) home 5241 foreignAgentPrivateAddress 434 1).packet
      RegistrationRequestPacket.bytes

theorem framing_first : getPacketType (requestOf mobileNodeAddress) =
    getPacketType (etherEncap (requestOf mobileNodeAddress) .zero .zero) :=
  (framing_iff (p := requestOf mobileNodeAddress) rfl .zero .zero).2 (Or.inl (by decide +kernel))

/-- The requests of a node with the address 8.0.0.1 are only known inside an Ethernet frame. -/
theorem framing_matters :
    ¬ ∀ p : Packet, p.networkHeader = some p.data → p.u8 p.data = 0x45 → 29 ≤ p.length →
      ∀ source destination, getPacketType p = getPacketType (etherEncap p source destination) := by
  intro h
  have hsame := h (requestOf ⟨8, 0, 0, 1⟩) rfl rfl (by decide +kernel) .zero .zero
  revert hsame
  decide +kernel

end Examples

end MobileIP
