import Z85.Proofs.Reference

namespace Z85

theorem lookup_toNat_of_mem {c : UInt8} (h : c ∈ alphabet) :
    (lookup c).toNat = alphabet.idxOf c := by
  have hv : digitValue? c = some (alphabet.idxOf c) := digitValue?_eq_some.mpr ⟨h, rfl⟩
  rw [digitValue?] at hv
  split at hv
  · cases hv
  · exact Option.some.inj hv

theorem lookup_of_not_mem {c : UInt8} (h : c ∉ alphabet) : lookup c = invalid := by
  by_contra hne
  obtain ⟨hlt, hc⟩ := digitByte_lookup hne
  exact h (hc ▸ digitByte_mem hlt)

theorem map_lookup_of_mem {cs : List UInt8} (h : ∀ c ∈ cs, c ∈ alphabet) :
    (cs.map lookup).map UInt8.toNat = cs.map alphabet.idxOf := by
  rw [List.map_map]
  exact List.map_congr_left (fun c hc ↦ lookup_toNat_of_mem (h c hc))

namespace Frame

theorem accumulate_take {cs : List UInt8} (hl : cs.length ≤ 5) (h : ∀ c ∈ cs, c ∈ alphabet)
    (k : Nat) :
    (accumulate (((cs.map lookup).map UInt8.toNat).take k)).toNat =
      Positional.value 85 (((cs.map lookup).map UInt8.toNat).take k) := by
  rw [map_lookup_of_mem h]
  apply accumulate_toNat
  · exact fun d hd ↦ idxOf_lt_of_mem h d (List.mem_of_mem_take hd)
  · exact Nat.le_trans (List.length_take_le' _ _) (by simpa using hl)

theorem read_of_five {cs : List UInt8} (hl : cs.length = 5) (h : ∀ c ∈ cs, c ∈ alphabet)
    (pos : Nat) :
    read pos cs = if Positional.value 85 ((cs.map lookup).map UInt8.toNat) < Word.limit
      then .ok (Positional.value 85 ((cs.map lookup).map UInt8.toNat))
      else .error (.overflow pos) := by
  rw [map_lookup_of_mem h, ← number_eq_value]
  exact read_of_mem pos (Nat.le_of_eq hl) h

end Frame

/-- The frame codec is a bijection between the numbers below 2 ^ 32 and the frames that write
them. The table maps each character of the alphabet to its digit and every other byte to
`invalid`. Every such number is written as five characters of the alphabet that read back as it,
at any position. Five characters of the alphabet are taken into a 64-bit word by their table
entries without wrapping it, to a number below 85 ^ 5; reading refuses that number as too large
exactly when it passes 2 ^ 32 - 1, and otherwise writing what it reads gives the five characters
back. -/
theorem frame_codec_bijection :
    (∀ d, d < 85 → lookup (digitByte d) = d.toUInt8) ∧
    (∀ c : UInt8, c ∉ alphabet → lookup c = invalid) ∧
    (∀ v, v < Word.limit →
      (Frame.write v).length = 5 ∧ (∀ c ∈ Frame.write v, c ∈ alphabet) ∧
      ∀ pos, Frame.read pos (Frame.write v) = .ok v) ∧
    ∀ (pos : Nat) (cs : List UInt8), cs.length = 5 → (∀ c ∈ cs, c ∈ alphabet) →
      (∀ k, (Frame.accumulate (((cs.map lookup).map UInt8.toNat).take k)).toNat =
        Positional.value 85 (((cs.map lookup).map UInt8.toNat).take k)) ∧
      Positional.value 85 ((cs.map lookup).map UInt8.toNat) < 85 ^ 5 ∧
      (Frame.read pos cs = .error (.overflow pos) ↔
        4294967295 < Positional.value 85 ((cs.map lookup).map UInt8.toNat)) ∧
      ∀ v, Frame.read pos cs = .ok v →
        v = Positional.value 85 ((cs.map lookup).map UInt8.toNat) ∧ Frame.write v = cs := by
  refine ⟨fun d h ↦ lookup_digitByte h, fun c h ↦ lookup_of_not_mem h,
    fun v h ↦ ⟨Frame.length_write v, fun c hc ↦ Frame.write_mem hc,
      fun pos ↦ Frame.read_write pos v h⟩, fun pos cs hl h ↦ ?_⟩
  have hread := Frame.read_of_five hl h pos
  have hnum : Positional.value 85 ((cs.map lookup).map UInt8.toNat) = number cs := by
    rw [map_lookup_of_mem h, number_eq_value]
  refine ⟨Frame.accumulate_take (Nat.le_of_eq hl) h, ?_, ?_, fun v hv ↦ ?_⟩
  · have hlt := Positional.value_lt 85 ((cs.map lookup).map UInt8.toNat) (by
      rw [map_lookup_of_mem h]
      exact idxOf_lt_of_mem h)
    simpa [hl] using hlt
  · rw [hread, hnum]
    by_cases hb : number cs < Word.limit
    · rw [if_pos hb]
      rw [Word.limit] at hb
      constructor
      · intro he
        cases he
      · intro hgt
        omega
    · rw [if_neg hb]
      rw [Word.limit] at hb
      exact ⟨fun _ ↦ by omega, fun _ ↦ rfl⟩
  · rw [hread] at hv
    split at hv
    · cases hv
      exact ⟨rfl, hnum ▸ Frame.write_number hl h⟩
    · cases hv

end Z85
