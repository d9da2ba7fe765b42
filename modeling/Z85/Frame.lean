import Z85.Alphabet
import Z85.Error
import Z85.Positional
import Z85.Word

namespace Z85.Frame

/-- The five characters that write a number below 2 ^ 32. -/
def write (v : Nat) : List UInt8 :=
  (Positional.digits 85 5 v).map digitByte

def digitsAt (pos : Nat) : List UInt8 → Except Error (List Nat)
  | [] => .ok []
  | c :: cs =>
    match digitValue? c with
    | some d => (digitsAt (pos + 1) cs).map (d :: ·)
    | none => .error (.badCharacter c pos)

def accumulate (ds : List Nat) : UInt64 :=
  ds.foldl (fun v d ↦ v * 85 + d.toUInt64) 0

/-- The number of the frame `cs` that starts at position `pos`. -/
def read (pos : Nat) (cs : List UInt8) : Except Error Nat :=
  match digitsAt pos cs with
  | .error e => .error e
  | .ok ds =>
    if accumulate ds > 4294967295 then .error (.overflow pos) else .ok (accumulate ds).toNat

@[simp] theorem length_write (v : Nat) : (write v).length = 5 := by
  simp [write]

theorem digitsAt_map_digitByte (pos : Nat) (ds : List Nat) (h : ∀ d ∈ ds, d < 85) :
    digitsAt pos (ds.map digitByte) = .ok ds := by
  induction ds generalizing pos with
  | nil => rfl
  | cons d ds ih =>
    have hd : d < 85 := h d (by simp)
    rw [List.map_cons, digitsAt, digitValue?_digitByte d hd,
      ih (pos + 1) (fun e he ↦ h e (by simp [he]))]
    rfl

theorem digitsAt_ok {pos : Nat} {cs : List UInt8} {ds : List Nat}
    (h : digitsAt pos cs = .ok ds) : (∀ d ∈ ds, d < 85) ∧ ds.length = cs.length := by
  induction cs generalizing pos ds with
  | nil =>
    cases h
    exact ⟨fun d hd ↦ absurd hd (List.not_mem_nil), rfl⟩
  | cons c cs ih =>
    rw [digitsAt] at h
    cases hc : digitValue? c with
    | none =>
      rw [hc] at h
      cases h
    | some d =>
      rw [hc] at h
      cases hr : digitsAt (pos + 1) cs with
      | error e =>
        rw [hr] at h
        cases h
      | ok es =>
        rw [hr] at h
        cases h
        obtain ⟨hlt, hlen⟩ := ih hr
        refine ⟨fun e he ↦ ?_, by simp [hlen]⟩
        rcases List.mem_cons.mp he with rfl | he
        · exact digitValue?_lt hc
        · exact hlt e he

theorem step_toNat (v : UInt64) {d : Nat} (hd : d < 85) (h : (v.toNat + 1) * 85 ≤ UInt64.size) :
    (v * 85 + d.toUInt64).toNat = v.toNat * 85 + d := by
  have hs : UInt64.size = 18446744073709551616 := rfl
  have h85 : (85 : UInt64).toNat = 85 := rfl
  rw [UInt64.toNat_add, UInt64.toNat_mul, UInt64.toNat_ofNat', h85]
  omega

theorem foldl_accumulate (ds : List Nat) (acc : UInt64) (h : ∀ d ∈ ds, d < 85)
    (hb : (acc.toNat + 1) * Nat.pow 85 ds.length ≤ UInt64.size) :
    (ds.foldl (fun v d ↦ v * 85 + d.toUInt64) acc).toNat =
      acc.toNat * Nat.pow 85 ds.length + Positional.value 85 ds := by
  induction ds generalizing acc with
  | nil => simp
  | cons d ds ih =>
    have hd : d < 85 := h d (by simp)
    have hpow : Nat.pow 85 (ds.length + 1) = Nat.pow 85 ds.length * 85 := rfl
    have hpos : 0 < Nat.pow 85 ds.length := Nat.pow_pos (by decide)
    rw [List.length_cons, hpow] at hb
    have hroom : (acc.toNat + 1) * 85 ≤ UInt64.size :=
      Nat.le_trans (Nat.mul_le_mul_left _ (Nat.le_mul_of_pos_left 85 hpos)) hb
    have hstep := step_toNat acc hd hroom
    rw [List.foldl_cons, ih _ (fun e he ↦ h e (by simp [he])), hstep, Positional.value_cons,
      List.length_cons, hpow]
    · simp only [Nat.add_mul, Nat.mul_assoc, Nat.add_assoc, Nat.mul_comm 85]
    · rw [hstep]
      calc (acc.toNat * 85 + d + 1) * Nat.pow 85 ds.length
          ≤ (acc.toNat + 1) * 85 * Nat.pow 85 ds.length := Nat.mul_le_mul_right _ (by omega)
        _ = (acc.toNat + 1) * (Nat.pow 85 ds.length * 85) := by
          rw [Nat.mul_assoc, Nat.mul_comm 85]
        _ ≤ UInt64.size := hb

theorem accumulate_toNat {ds : List Nat} (h : ∀ d ∈ ds, d < 85) (hl : ds.length ≤ 5) :
    (accumulate ds).toNat = Positional.value 85 ds := by
  have hroom : Nat.pow 85 ds.length ≤ UInt64.size :=
    Nat.le_trans (Nat.pow_le_pow_right (by decide) hl) (by decide)
  have hacc := foldl_accumulate ds 0 h (by simpa using hroom)
  rw [UInt64.toNat_zero, Nat.zero_mul, Nat.zero_add] at hacc
  exact hacc

theorem read_eq_value (pos : Nat) {cs : List UInt8} (hl : cs.length ≤ 5) :
    read pos cs = match digitsAt pos cs with
      | .error e => .error e
      | .ok ds =>
        if Positional.value 85 ds < Word.limit then .ok (Positional.value 85 ds)
        else .error (.overflow pos) := by
  rw [read]
  cases hd : digitsAt pos cs with
  | error e => rfl
  | ok ds =>
    obtain ⟨hlt, hlen⟩ := digitsAt_ok hd
    have hv := accumulate_toNat hlt (hlen ▸ hl)
    have hgt : accumulate ds > 4294967295 ↔ ¬Positional.value 85 ds < Word.limit := by
      have hmax : (4294967295 : UInt64).toNat = 4294967295 := rfl
      rw [gt_iff_lt, UInt64.lt_iff_toNat_lt, hv, hmax, Word.limit]
      exact ⟨fun h' ↦ by omega, fun h' ↦ by omega⟩
    dsimp only
    by_cases hb : Positional.value 85 ds < Word.limit
    · rw [if_neg (fun h' ↦ hgt.mp h' hb), if_pos hb, hv]
    · rw [if_pos (hgt.mpr hb), if_neg hb]

theorem read_write (pos v : Nat) (h : v < Word.limit) : read pos (write v) = .ok v := by
  have hv : Positional.value 85 (Positional.digits 85 5 v) = v := by
    rw [Positional.value_digits]
    exact Nat.mod_eq_of_lt (Nat.lt_trans h (by decide))
  rw [read_eq_value pos (by simp), write,
    digitsAt_map_digitByte pos _ (Positional.digits_lt 85 5 v (by decide))]
  simp only [hv, h, if_true]

end Z85.Frame
