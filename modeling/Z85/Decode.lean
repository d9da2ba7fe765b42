import Z85.Codec
import Z85.Frame
import Z85.Shape
import Z85.Word

namespace Z85

/-- The numbers of the whole frames of a text from position `pos` on, left to right; a rest
shorter than a frame (the marker) is not read. -/
def readFrames (pos : Nat) : List UInt8 → Except Error (List Nat)
  | c0 :: c1 :: c2 :: c3 :: c4 :: rest =>
    match Frame.read pos [c0, c1, c2, c3, c4] with
    | .error e => .error e
    | .ok v => (readFrames (pos + 5) rest).map (v :: ·)
  | _ => .ok []

def lastFrame (pos last : Nat) : List UInt8 → Except Error Nat
  | c0 :: c1 :: c2 :: c3 :: c4 :: rest =>
    match Frame.read pos [c0, c1, c2, c3, c4] with
    | .error e => .error e
    | .ok v => lastFrame (pos + 5) v rest
  | _ => .ok last

def paddingClear (padding v : Nat) : Bool :=
  ((Word.bytes v).drop (4 - padding)).all (· == 0)

namespace Shape

/-- The bytes of a text of this shape: the words of its frames less the padding octets. A
canonical reading refuses padding octets that are not zero. -/
def read (sh : Shape) (strict : Bool) (s : List UInt8) : Except Error (List UInt8) :=
  match readFrames 0 s with
  | .error e => .error e
  | .ok vs =>
    if strict ∧ paddingClear sh.padding (vs.getLastD 0) = false then .error .nonZeroPadding
    else .ok ((vs.flatMap Word.bytes).take sh.size)

end Shape

namespace Codec

/-- The bytes that a text stands for, or the first failure. -/
def decode (c : Codec) (s : List UInt8) : Except Error (List UInt8) :=
  match Shape.ofText c.strict s with
  | .error e => .error e
  | .ok sh => sh.read c.strict s

/-- Whether a text can be read, or the failure that reading it reports. -/
def validate (c : Codec) (s : List UInt8) : Except Error Unit :=
  match Shape.ofText c.strict s with
  | .error e => .error e
  | .ok sh =>
    match lastFrame 0 0 s with
    | .error e => .error e
    | .ok v =>
      if c.strict ∧ paddingClear sh.padding v = false then .error .nonZeroPadding else .ok ()

end Codec

end Z85
