import Z85.Frame
import Z85.Layout
import Z85.Word

namespace Z85

def encodeTail (bs : List UInt8) : List UInt8 :=
  Frame.write (Word.value (bs ++ List.replicate (4 - bs.length) 0)) ++ [digitByte (4 - bs.length)]

/-- The text of a string of bytes. -/
def encode : List UInt8 → List UInt8
  | [] => []
  | [b0] => encodeTail [b0]
  | [b0, b1] => encodeTail [b0, b1]
  | [b0, b1, b2] => encodeTail [b0, b1, b2]
  | b0 :: b1 :: b2 :: b3 :: rest => Frame.write (Word.value [b0, b1, b2, b3]) ++ encode rest

def encodeString (bs : List UInt8) : String :=
  String.ofList ((encode bs).map (fun b ↦ Char.ofNat b.toNat))

@[simp] theorem length_encodeTail (bs : List UInt8) : (encodeTail bs).length = 6 := by
  simp [encodeTail]

theorem length_encode (bs : List UInt8) : (encode bs).length = textLength bs.length := by
  induction bs using encode.induct with
  | case1 => rfl
  | case2 | case3 | case4 => simp [encode, encodeTail, textLength]
  | case5 b0 b1 b2 b3 rest ih =>
    simp only [encode, List.length_append, Frame.length_write, ih, List.length_cons, textLength]
    split <;> split <;> omega

end Z85
