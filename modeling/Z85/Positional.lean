namespace Z85.Positional

/-- The number a numeral stands for in `base`, most significant digit first. -/
def value (base : Nat) (ds : List Nat) : Nat :=
  ds.foldl (fun acc d ↦ acc * base + d) 0

/-- The lowest `width` digits of `n` in `base`, most significant first. -/
def digits (base : Nat) : Nat → Nat → List Nat
  | 0, _ => []
  | width + 1, n => digits base width (n / base) ++ [n % base]

theorem foldl_value (base : Nat) (ds : List Nat) (acc : Nat) :
    ds.foldl (fun acc d ↦ acc * base + d) acc = acc * Nat.pow base ds.length + value base ds := by
  induction ds generalizing acc with
  | nil => simp [value]
  | cons d ds ih =>
    simp only [List.foldl_cons, value, List.length_cons]
    rw [ih, ih (0 * base + d)]
    simp only [Nat.pow_eq, Nat.pow_succ, Nat.zero_mul, Nat.zero_add, Nat.add_mul, Nat.mul_assoc,
      Nat.add_assoc, Nat.mul_comm base]

@[simp] theorem value_nil (base : Nat) : value base [] = 0 := rfl

theorem value_cons (base d : Nat) (ds : List Nat) :
    value base (d :: ds) = d * Nat.pow base ds.length + value base ds := by
  simp only [value, List.foldl_cons, Nat.zero_mul, Nat.zero_add]
  exact foldl_value base ds d

theorem value_append (base : Nat) (ds es : List Nat) :
    value base (ds ++ es) = value base ds * Nat.pow base es.length + value base es := by
  simp only [value, List.foldl_append]
  exact foldl_value base es _

@[simp] theorem length_digits (base width n : Nat) : (digits base width n).length = width := by
  induction width generalizing n with
  | zero => rfl
  | succ w ih => simp [digits, ih]

theorem digits_lt (base width n : Nat) (h : 0 < base) :
    ∀ d ∈ digits base width n, d < base := by
  induction width generalizing n with
  | zero => simp [digits]
  | succ w ih =>
    intro d hd
    rw [digits, List.mem_append, List.mem_singleton] at hd
    rcases hd with hd | rfl
    · exact ih (n / base) d hd
    · exact Nat.mod_lt n h

theorem value_digits (base width n : Nat) :
    value base (digits base width n) = n % Nat.pow base width := by
  induction width generalizing n with
  | zero => simp [digits, Nat.mod_one]
  | succ w ih =>
    rw [digits, value_append, ih]
    simp only [Nat.pow_eq, Nat.pow_succ', Nat.mod_mul, List.length_cons, List.length_nil,
      Nat.zero_add]
    simp [value, Nat.mul_comm, Nat.add_comm]

theorem digits_succ (base width n : Nat) :
    digits base (width + 1) n = (n / Nat.pow base width % base) :: digits base width n := by
  induction width generalizing n with
  | zero => simp [digits]
  | succ w ih =>
    rw [digits, ih, digits, Nat.div_div_eq_div_mul]
    simp only [Nat.pow_eq, Nat.pow_succ']
    rfl

theorem digits_mod (base width n : Nat) :
    digits base width (n % Nat.pow base width) = digits base width n := by
  induction width generalizing n with
  | zero => rfl
  | succ w ih =>
    have hd : base ^ w ∣ base ^ (w + 1) := Nat.pow_dvd_pow base (Nat.le_succ w)
    rw [digits_succ, digits_succ, ← ih (n % Nat.pow base (w + 1))]
    simp only [Nat.pow_eq] at ih ⊢
    rw [Nat.mod_mod_of_dvd _ hd, ih, Nat.pow_succ', Nat.mod_mul_left_div_self, Nat.mod_mod]

theorem value_lt (base : Nat) (ds : List Nat) (h : ∀ d ∈ ds, d < base) :
    value base ds < Nat.pow base ds.length := by
  induction ds with
  | nil => simp
  | cons d ds ih =>
    rw [value_cons]
    have hd : d < base := h d (by simp)
    have hs := ih (fun e he ↦ h e (by simp [he]))
    simp only [Nat.pow_eq, List.length_cons, Nat.pow_succ'] at hs ⊢
    calc d * base ^ ds.length + value base ds
        < d * base ^ ds.length + base ^ ds.length := by omega
      _ = (d + 1) * base ^ ds.length := by rw [Nat.succ_mul]
      _ ≤ base * base ^ ds.length := Nat.mul_le_mul_right _ hd

theorem digits_value (base : Nat) (ds : List Nat) (h : ∀ d ∈ ds, d < base) :
    digits base ds.length (value base ds) = ds := by
  induction ds with
  | nil => rfl
  | cons d ds ih =>
    have hd : d < base := h d (by simp)
    have hs := value_lt base ds (fun e he ↦ h e (by simp [he]))
    have hpos : 0 < Nat.pow base ds.length := by omega
    rw [List.length_cons, digits_succ, value_cons, ← digits_mod, Nat.mul_add_mod_self_right,
      Nat.mod_eq_of_lt hs, ih (fun e he ↦ h e (by simp [he])), Nat.mul_comm d,
      Nat.mul_add_div hpos, Nat.div_eq_of_lt hs, Nat.add_zero, Nat.mod_eq_of_lt hd]

end Z85.Positional
