namespace Z85

structure Layout where
  frames : Int64
  remainder : Int64
  length : Int64
  deriving DecidableEq, Repr

namespace Layout

/-- The layout of `n` bytes; for a negative `n` every field is computed by the same rule. -/
def plan (n : Int64) : Layout :=
  let frames := n / 4
  let remainder := n % 4
  { frames, remainder, length := if remainder = 0 then frames * 5 else (frames + 1) * 5 + 1 }

end Layout

def encodedLength (n : Int64) : Int64 :=
  (Layout.plan n).length

def decodedLength (n : Int64) : Int64 :=
  n / 5 * 4

def textLength (n : Nat) : Nat :=
  if n % 4 = 0 then n / 4 * 5 else (n / 4 + 1) * 5 + 1

example : textLength 0 = 0 ∧ textLength 1 = 6 ∧ textLength 4 = 5 ∧ textLength 7 = 11 := by
  decide

theorem textLength_of_mod_eq_zero {n : Nat} (h : n % 4 = 0) : textLength n = 5 * (n / 4) := by
  rw [textLength, if_pos h, Nat.mul_comm]

theorem textLength_of_mod_pos {n : Nat} (h : 0 < n % 4) : textLength n = 5 * (n / 4) + 6 := by
  rw [textLength, if_neg (Nat.pos_iff_ne_zero.mp h)]
  omega

theorem textLength_four_mul (f : Nat) : textLength (4 * f) = 5 * f := by
  rw [textLength_of_mod_eq_zero (Nat.mul_mod_right 4 f), Nat.mul_div_cancel_left f (by decide)]

example : Layout.plan (-11) = ⟨-2, -3, -4⟩ := by decide

end Z85
