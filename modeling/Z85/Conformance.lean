import Z85.Curve.Pair
import Z85.Decode
import Z85.Text.Quoted

namespace Z85.Conformance

/-- The findings of a check. -/
structure Report where
  failures : List String := []
  fatal : Bool := false
  deriving DecidableEq, Repr

def Report.stop (msg : String) : Report :=
  ⟨[msg], true⟩

def Report.stopWith (r : Report) (msg : String) : Report :=
  ⟨r.failures ++ [msg], true⟩

def randomBytes (source : List UInt8) (n : Nat) : Report × Option (List UInt8) :=
  if n ≤ source.length then ({}, some (source.take n))
  else (Report.stop "failed to generate random data", none)

def checkAlphabet (text : List UInt8) : Report :=
  { failures := ((text.zipIdx).filter (fun p ↦ (digitValue? p.1).isNone)).map
      (fun p ↦ "byte " ++ Text.Quoted.byte p.1 ++ " at position " ++ toString p.2 ++
        " is not a Z85 digit") }

/-- Writes the text of bytes and reads it back with a codec: the text has the planned length
and only characters of the alphabet, it reads back to the bytes, and it is valid. -/
def roundTrip (codec : Codec) (bs : List UInt8) : Report × Option String :=
  let text := encode bs
  if text.length ≠ textLength bs.length then
    (Report.stop ("encoded length for " ++ toString bs.length ++ " bytes"), none)
  else
    let soft := checkAlphabet text
    match codec.decode text with
    | .error _ => (soft.stopWith ("decoding " ++ Text.Quoted.bytes text), none)
    | .ok decoded =>
      if decoded.length ≠ bs.length ∨ decoded ≠ bs then (soft.stopWith "", none)
      else
        match codec.validate text with
        | .error _ => (soft.stopWith "", none)
        | .ok () => (soft, some (encodeString bs))

def newKeyPair (source : List UInt8) : Report × Option Curve.KeyPair :=
  match Curve.KeyPair.generate source with
  | .ok kp => ({}, some kp)
  | .error _ => (Report.stop "failed to generate test key pair", none)

/-- A key pair has a public key and then a secret key that are not all zero. -/
def checkKeyPair (kp : Curve.KeyPair) : Report :=
  if kp.publicKey = Curve.Key.zero then Report.stop "public key is all zeros"
  else if kp.secretKey = Curve.Key.zero then Report.stop "secret key is all zeros"
  else {}

end Z85.Conformance
