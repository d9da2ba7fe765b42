namespace Z85

/-- The 85 characters in digit order: `0`–`9`, `a`–`z`, `A`–`Z`, then
`.-:+=^!/*?&<>()[]{}@%$#`. -/
def alphabet : List UInt8 :=
  (List.range 10).map (fun i ↦ (0x30 + i).toUInt8) ++
  (List.range 26).map (fun i ↦ (0x61 + i).toUInt8) ++
  (List.range 26).map (fun i ↦ (0x41 + i).toUInt8) ++
  ['.', '-', ':', '+', '=', '^', '!', '/', '*', '?', '&', '<', '>', '(', ')', '[', ']', '{', '}',
    '@', '%', '$', '#'].map (fun c ↦ c.toNat.toUInt8)

def digitByte (d : Nat) : UInt8 :=
  alphabet.getD d 0

def invalid : UInt8 := 0xFF

/-- The digit of each byte, by the byte's value, or `invalid` for a byte outside the alphabet. -/
def decoder : List UInt8 := [
  0xFF, 0xFF, 0xFF, 0xFF, 0xFF, 0xFF, 0xFF, 0xFF, 0xFF, 0xFF, 0xFF, 0xFF, 0xFF, 0xFF, 0xFF, 0xFF,
  0xFF, 0xFF, 0xFF, 0xFF, 0xFF, 0xFF, 0xFF, 0xFF, 0xFF, 0xFF, 0xFF, 0xFF, 0xFF, 0xFF, 0xFF, 0xFF,
  0xFF, 0x44, 0xFF, 0x54, 0x53, 0x52, 0x48, 0xFF, 0x4B, 0x4C, 0x46, 0x41, 0xFF, 0x3F, 0x3E, 0x45,
  0x00, 0x01, 0x02, 0x03, 0x04, 0x05, 0x06, 0x07, 0x08, 0x09, 0x40, 0xFF, 0x49, 0x42, 0x4A, 0x47,
  0x51, 0x24, 0x25, 0x26, 0x27, 0x28, 0x29, 0x2A, 0x2B, 0x2C, 0x2D, 0x2E, 0x2F, 0x30, 0x31, 0x32,
  0x33, 0x34, 0x35, 0x36, 0x37, 0x38, 0x39, 0x3A, 0x3B, 0x3C, 0x3D, 0x4D, 0xFF, 0x4E, 0x43, 0xFF,
  0xFF, 0x0A, 0x0B, 0x0C, 0x0D, 0x0E, 0x0F, 0x10, 0x11, 0x12, 0x13, 0x14, 0x15, 0x16, 0x17, 0x18,
  0x19, 0x1A, 0x1B, 0x1C, 0x1D, 0x1E, 0x1F, 0x20, 0x21, 0x22, 0x23, 0x4F, 0xFF, 0x50, 0xFF, 0xFF,
  0xFF, 0xFF, 0xFF, 0xFF, 0xFF, 0xFF, 0xFF, 0xFF, 0xFF, 0xFF, 0xFF, 0xFF, 0xFF, 0xFF, 0xFF, 0xFF,
  0xFF, 0xFF, 0xFF, 0xFF, 0xFF, 0xFF, 0xFF, 0xFF, 0xFF, 0xFF, 0xFF, 0xFF, 0xFF, 0xFF, 0xFF, 0xFF,
  0xFF, 0xFF, 0xFF, 0xFF, 0xFF, 0xFF, 0xFF, 0xFF, 0xFF, 0xFF, 0xFF, 0xFF, 0xFF, 0xFF, 0xFF, 0xFF,
  0xFF, 0xFF, 0xFF, 0xFF, 0xFF, 0xFF, 0xFF, 0xFF, 0xFF, 0xFF, 0xFF, 0xFF, 0xFF, 0xFF, 0xFF, 0xFF,
  0xFF, 0xFF, 0xFF, 0xFF, 0xFF, 0xFF, 0xFF, 0xFF, 0xFF, 0xFF, 0xFF, 0xFF, 0xFF, 0xFF, 0xFF, 0xFF,
  0xFF, 0xFF, 0xFF, 0xFF, 0xFF, 0xFF, 0xFF, 0xFF, 0xFF, 0xFF, 0xFF, 0xFF, 0xFF, 0xFF, 0xFF, 0xFF,
  0xFF, 0xFF, 0xFF, 0xFF, 0xFF, 0xFF, 0xFF, 0xFF, 0xFF, 0xFF, 0xFF, 0xFF, 0xFF, 0xFF, 0xFF, 0xFF,
  0xFF, 0xFF, 0xFF, 0xFF, 0xFF, 0xFF, 0xFF, 0xFF, 0xFF, 0xFF, 0xFF, 0xFF, 0xFF, 0xFF, 0xFF, 0xFF]

def lookup (b : UInt8) : UInt8 :=
  decoder.getD b.toNat invalid

def digitValue? (b : UInt8) : Option Nat :=
  if lookup b = invalid then none else some (lookup b).toNat

theorem length_alphabet : alphabet.length = 85 := by decide

theorem decoder_alphabet :
    (List.range 85).all (fun d ↦ decoder.getD (digitByte d).toNat invalid == d.toUInt8) = true := by
  decide +kernel

theorem decoder_entries :
    decoder.zipIdx.all (fun e ↦ e.1 == invalid ||
      e.1.toNat < 85 && digitByte e.1.toNat == e.2.toUInt8) = true := by
  decide +kernel

theorem lookup_digitByte {d : Nat} (h : d < 85) : lookup (digitByte d) = d.toUInt8 := by
  have hd := List.all_eq_true.mp decoder_alphabet d (List.mem_range.mpr h)
  simpa [lookup] using hd

theorem digitByte_lookup {b : UInt8} (h : lookup b ≠ invalid) :
    (lookup b).toNat < 85 ∧ digitByte (lookup b).toNat = b := by
  cases he : decoder[b.toNat]? with
  | none =>
    rw [lookup, List.getD_eq_getElem?_getD, he, Option.getD_none] at h
    exact absurd rfl h
  | some e =>
    have hl : lookup b = e := by rw [lookup, List.getD_eq_getElem?_getD, he, Option.getD_some]
    have hmem : (e, b.toNat) ∈ decoder.zipIdx := List.mem_zipIdx_iff_getElem?.mpr he
    have hc := List.all_eq_true.mp decoder_entries _ hmem
    rw [hl] at h ⊢
    simp only [Bool.or_eq_true, beq_iff_eq, h, false_or, Bool.and_eq_true, decide_eq_true_eq]
      at hc
    exact ⟨hc.1, hc.2.trans UInt8.ofNat_toNat⟩

theorem digitByte_mem {d : Nat} (h : d < 85) : digitByte d ∈ alphabet := by
  rw [digitByte, List.getD_eq_getElem?_getD, List.getElem?_eq_getElem (length_alphabet ▸ h),
    Option.getD_some]
  exact List.getElem_mem _

theorem digitValue?_digitByte (d : Nat) (h : d < 85) : digitValue? (digitByte d) = some d := by
  have hd : d.toUInt8.toNat = d := Nat.mod_eq_of_lt (by omega)
  have hne : lookup (digitByte d) ≠ invalid := by
    rw [lookup_digitByte h]
    intro heq
    have := congrArg UInt8.toNat heq
    rw [hd] at this
    exact absurd this (by simp [invalid]; omega)
  rw [digitValue?, if_neg hne, lookup_digitByte h, hd]

theorem digitValue?_eq_idxOf? (b : UInt8) : digitValue? b = alphabet.idxOf? b := by
  cases hi : alphabet.idxOf? b with
  | some d =>
    obtain ⟨hlt, hget, -⟩ := List.idxOf?_eq_some_iff.mp hi
    have hb : digitByte d = b := by
      rw [digitByte, List.getD_eq_getElem?_getD, List.getElem?_eq_getElem hlt, Option.getD_some,
        hget]
    rw [← hb, digitValue?_digitByte d (length_alphabet ▸ hlt)]
  | none =>
    rw [digitValue?]
    by_cases h : lookup b = invalid
    · rw [if_pos h]
    · obtain ⟨hlt, hb⟩ := digitByte_lookup h
      exact absurd (hb ▸ digitByte_mem hlt) (List.idxOf?_eq_none_iff.mp hi)

theorem digitByte_of_digitValue? {b : UInt8} {d : Nat} (h : digitValue? b = some d) :
    d < 85 ∧ digitByte d = b := by
  rw [digitValue?_eq_idxOf?] at h
  obtain ⟨hlt, hget, -⟩ := List.idxOf?_eq_some_iff.mp h
  refine ⟨length_alphabet ▸ hlt, ?_⟩
  rw [digitByte, List.getD_eq_getElem?_getD, List.getElem?_eq_getElem hlt, Option.getD_some, hget]

theorem digitValue?_lt {b : UInt8} {d : Nat} (h : digitValue? b = some d) : d < 85 :=
  (digitByte_of_digitValue? h).1

end Z85
