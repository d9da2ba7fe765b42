import Z85.Reader

namespace Z85

/-- The outcome of filling a buffer: the count of bytes written or the failure, and the buffer
afterwards. -/
structure Fill where
  written : Except Error Nat
  buffer : List UInt8

def encodeInto (dst src : List UInt8) : Except Writer.Fault Fill :=
  if dst.length < textLength src.length then
    .ok ⟨.error (.shortBuffer (textLength src.length) dst.length), dst⟩
  else (Writer.run (dst.take (textLength src.length)) src).map
    fun w ↦ ⟨.ok (textLength src.length), w ++ dst.drop (textLength src.length)⟩

/-- The bytes of `pre` followed by the text of `src`: `pre` grown by zero bytes as many as the
text plans, and the text written over them; a writer's fault stops the call. -/
def appendEncode (pre src : List UInt8) : Except Writer.Fault (List UInt8) :=
  let grown := pre ++ List.replicate (textLength src.length) 0
  (Writer.run (grown.drop pre.length) src).map (grown.take pre.length ++ ·)

/-- Reads the text `s` in place over the front of `dst`; a failure in a frame or in the padding
clears that front to zero bytes. -/
def Codec.decodeInto (c : Codec) (dst s : List UInt8) : Fill :=
  match Shape.ofText c.strict s with
  | .error e => ⟨.error e, dst⟩
  | .ok sh =>
    if dst.length < sh.size then ⟨.error (.shortBuffer sh.size dst.length), dst⟩
    else
      match Reader.run sh c.strict (dst.take sh.size) s with
      | .ok w => ⟨.ok sh.size, w ++ dst.drop sh.size⟩
      | .error e => ⟨.error e, List.replicate sh.size 0 ++ dst.drop sh.size⟩

end Z85
