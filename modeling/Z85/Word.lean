import Z85.Positional

namespace Z85.Word

def value (bs : List UInt8) : Nat :=
  Positional.value 256 (bs.map UInt8.toNat)

def limit : Nat := 4294967296

/-- The four bytes of a number below 2 ^ 32, most significant first. -/
def bytes (v : Nat) : List UInt8 :=
  (Positional.digits 256 4 v).map Nat.toUInt8

@[simp] theorem length_bytes (v : Nat) : (bytes v).length = 4 := by
  simp [bytes]

theorem value_lt (bs : List UInt8) : value bs < Nat.pow 256 bs.length := by
  have h := Positional.value_lt 256 (bs.map UInt8.toNat) (by
    simp only [List.mem_map]
    rintro _ ⟨b, -, rfl⟩
    exact b.toNat_lt)
  simpa [value] using h

theorem value_bytes (v : Nat) (h : v < limit) : value (bytes v) = v := by
  have hmap : ((Positional.digits 256 4 v).map Nat.toUInt8).map UInt8.toNat =
      Positional.digits 256 4 v := by
    rw [List.map_map]
    conv => rhs; rw [← List.map_id (Positional.digits 256 4 v)]
    apply List.map_congr_left
    intro d hd
    have hlt := Positional.digits_lt 256 4 v (by decide) d hd
    simp [Nat.mod_eq_of_lt hlt]
  rw [value, bytes, hmap, Positional.value_digits]
  exact Nat.mod_eq_of_lt h

end Z85.Word
