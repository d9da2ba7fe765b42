namespace Z85.Text.Utf8

inductive Piece where
  | scalar (cp : Nat)
  | stray (b : UInt8)
  deriving DecidableEq, Repr

def bytes (s : String) : List UInt8 :=
  s.toUTF8.toList

def isTrail (b : UInt8) : Bool := 0x80 ≤ b && b ≤ 0xBF

def startsThree (b0 b1 : UInt8) : Bool :=
  if b0 = 0xE0 then 0xA0 ≤ b1 && b1 ≤ 0xBF
  else if b0 = 0xED then 0x80 ≤ b1 && b1 ≤ 0x9F
  else 0xE1 ≤ b0 && b0 ≤ 0xEF && isTrail b1

def startsFour (b0 b1 : UInt8) : Bool :=
  if b0 = 0xF0 then 0x90 ≤ b1 && b1 ≤ 0xBF
  else if b0 = 0xF4 then 0x80 ≤ b1 && b1 ≤ 0x8F
  else 0xF1 ≤ b0 && b0 ≤ 0xF3 && isTrail b1

def front (b0 : UInt8) (rest : List UInt8) : Piece × List UInt8 :=
  if b0 < 0x80 then (.scalar b0.toNat, rest)
  else match rest with
    | b1 :: r1 =>
      if 0xC2 ≤ b0 && b0 ≤ 0xDF && isTrail b1 then
        (.scalar (b0.toNat % 32 * 64 + b1.toNat % 64), r1)
      else match r1 with
        | b2 :: r2 =>
          if startsThree b0 b1 && isTrail b2 then
            (.scalar (b0.toNat % 16 * 4096 + b1.toNat % 64 * 64 + b2.toNat % 64), r2)
          else match r2 with
            | b3 :: r3 =>
              if startsFour b0 b1 && isTrail b2 && isTrail b3 then
                (.scalar (b0.toNat % 8 * 262144 + b1.toNat % 64 * 4096 + b2.toNat % 64 * 64 +
                  b3.toNat % 64), r3)
              else (.stray b0, rest)
            | [] => (.stray b0, rest)
        | [] => (.stray b0, rest)
    | [] => (.stray b0, rest)

theorem front_of_lt (b0 : UInt8) (rest : List UInt8) (h : b0 < 0x80) :
    front b0 rest = (.scalar b0.toNat, rest) := by
  unfold front
  rw [if_pos h]

theorem length_front_le (b0 : UInt8) (rest : List UInt8) :
    (front b0 rest).2.length ≤ rest.length := by
  unfold front
  repeat' split
  all_goals simp_all
  all_goals omega

/-- The pieces of a byte string, in order. -/
def pieces : List UInt8 → List Piece
  | [] => []
  | b0 :: rest => (front b0 rest).1 :: pieces (front b0 rest).2
termination_by bs => bs.length
decreasing_by
  have := length_front_le b0 rest
  simp only [List.length_cons]
  omega

theorem pieces_ascii (bs : List UInt8) (h : ∀ b ∈ bs, b < 0x80) :
    pieces bs = bs.map (fun b ↦ .scalar b.toNat) := by
  induction bs with
  | nil => simp [pieces]
  | cons b bs ih =>
    have hb : b < 0x80 := h b (by simp)
    rw [pieces, front_of_lt b bs hb, ih (fun c hc ↦ h c (by simp [hc]))]
    rfl

end Z85.Text.Utf8
