import Z85.Kind
import Z85.Text.Quoted

namespace Z85.Text.Hex

inductive Error where
  | badByte (b : UInt8)
  | oddLength
  deriving DecidableEq, Repr

def Error.kind : Error → Kind
  | .badByte _ => .hexByte
  | .oddLength => .hexLength

def Error.message : Error → String
  | .badByte b => "encoding/hex: invalid byte: " ++ Quoted.codePoint b.toNat
  | .oddLength => "encoding/hex: odd length hex string"

def digitValue? (b : UInt8) : Option Nat :=
  if 0x30 ≤ b ∧ b ≤ 0x39 then some (b.toNat - 0x30)
  else if 0x61 ≤ b ∧ b ≤ 0x66 then some (b.toNat - 0x61 + 10)
  else if 0x41 ≤ b ∧ b ≤ 0x46 then some (b.toNat - 0x41 + 10)
  else none

/-- The bytes of a hexadecimal text. -/
def decode : List UInt8 → Except Error (List UInt8)
  | [] => .ok []
  | [c] =>
    match digitValue? c with
    | some _ => .error .oddLength
    | none => .error (.badByte c)
  | c0 :: c1 :: rest =>
    match digitValue? c0, digitValue? c1 with
    | some hi, some lo => (decode rest).map ((hi * 16 + lo).toUInt8 :: ·)
    | none, _ => .error (.badByte c0)
    | some _, none => .error (.badByte c1)

def digitByte (d : Nat) : UInt8 :=
  if d < 10 then (0x30 + d).toUInt8 else (0x57 + d).toUInt8

def encodeBytes (bs : List UInt8) : List UInt8 :=
  bs.flatMap (fun b ↦ [digitByte (b.toNat / 16), digitByte (b.toNat % 16)])

def encode (bs : List UInt8) : String :=
  String.ofList ((encodeBytes bs).map (fun b ↦ Char.ofNat b.toNat))

theorem length_encodeBytes (bs : List UInt8) : (encodeBytes bs).length = 2 * bs.length := by
  induction bs with
  | nil => rfl
  | cons b bs ih =>
    simp only [encodeBytes, List.flatMap_cons, List.length_append, List.length_cons,
      List.length_nil] at ih ⊢
    omega

end Z85.Text.Hex
