import Z85.Curve.Field

namespace Z85.Curve

structure Point where
  x : Nat
  z : Nat

namespace Point

def a24 : Nat := 121665

def double (P : Point) : Point :=
  let aa := Field.mul (Field.add P.x P.z) (Field.add P.x P.z)
  let bb := Field.mul (Field.sub P.x P.z) (Field.sub P.x P.z)
  let e := Field.sub aa bb
  ⟨Field.mul aa bb, Field.mul e (Field.add aa (Field.mul a24 e))⟩

def addWith (base : Nat) (P Q : Point) : Point :=
  let da := Field.mul (Field.sub Q.x Q.z) (Field.add P.x P.z)
  let cb := Field.mul (Field.add Q.x Q.z) (Field.sub P.x P.z)
  let s := Field.add da cb
  let d := Field.sub da cb
  ⟨Field.mul s s, Field.mul base (Field.mul d d)⟩

def affine (P : Point) : Nat :=
  Field.mul P.x (Field.inv P.z)

end Point

/-- The ladder over the lowest `bits` bits of `k`, from the top: a pair of points whose
difference has x-coordinate `base` becomes the pair for the next bit. -/
def ladder (k base : Nat) : Nat → Point × Point → Point × Point
  | 0, r => r
  | bits + 1, (r0, r1) =>
    if k.testBit bits then ladder k base bits (Point.addWith base r0 r1, r1.double)
    else ladder k base bits (r0.double, Point.addWith base r0 r1)

/-- A scalar with bits 0, 1, 2 and 255 cleared and bit 254 set. -/
def clamp (k : Nat) : Nat :=
  Nat.pow 2 254 + k % Nat.pow 2 254 - k % 8

/-- The x-coordinate of `k` times the point with x-coordinate `u`, as 32 bytes. -/
def x25519 (k u : List UInt8) : List UInt8 :=
  let base := littleEndian u % Nat.pow 2 255 % prime
  let (r0, _) := ladder (clamp (littleEndian k)) base 255 (⟨1, 0⟩, ⟨base, 1⟩)
  toLittleEndian r0.affine

def basePoint : List UInt8 :=
  toLittleEndian 9

end Z85.Curve
