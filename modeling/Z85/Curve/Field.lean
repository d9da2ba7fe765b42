import Z85.Positional

namespace Z85.Curve

/-- The prime `2 ^ 255 - 19`. -/
def prime : Nat := Nat.pow 2 255 - 19

def littleEndian (bs : List UInt8) : Nat :=
  Positional.value 256 (bs.reverse.map UInt8.toNat)

def toLittleEndian (n : Nat) : List UInt8 :=
  ((Positional.digits 256 32 n).map Nat.toUInt8).reverse

namespace Field

def add (a b : Nat) : Nat := (a + b) % prime

def sub (a b : Nat) : Nat := (a + prime - b) % prime

def mul (a b : Nat) : Nat := a * b % prime

def pow (b e : Nat) : Nat :=
  if h : e = 0 then 1 % prime
  else
    let half := pow (mul b b) (e / 2)
    if e % 2 = 1 then mul half b else half
termination_by e
decreasing_by omega

/-- The inverse modulo the prime, and 0 for 0. -/
def inv (a : Nat) : Nat := pow a (prime - 2)

end Field

@[simp] theorem length_toLittleEndian (n : Nat) : (toLittleEndian n).length = 32 := by
  simp [toLittleEndian]

end Z85.Curve
