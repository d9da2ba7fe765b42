import Z85.Alphabet
import Z85.Error

namespace Z85

/-- How a text is read: its frames, and the padding octets of the last frame. -/
structure Shape where
  frames : Nat
  padding : Nat
  padding_lt : padding < 4
  deriving DecidableEq, Repr

namespace Shape

def size (sh : Shape) : Nat :=
  sh.frames * 4 - sh.padding

def ofMarker (strict : Bool) (n : Nat) (b : UInt8) : Except Error Shape :=
  match digitValue? b with
  | some m =>
    if h : m < 4 then
      if m = 0 ∧ strict then .error .zeroMarker else .ok ⟨n / 5, m, h⟩
    else .error (.badMarker b (n - 1))
  | none => .error (.badMarker b (n - 1))

/-- The shape of a text, or why its length or marker is refused. -/
def ofText (strict : Bool) (s : List UInt8) : Except Error Shape :=
  if s.length = 0 then .ok ⟨0, 0, by decide⟩
  else if s.length < 5 then .error (.invalidLength s.length)
  else if s.length % 5 = 0 then .ok ⟨s.length / 5, 0, by decide⟩
  else if s.length % 5 = 1 then ofMarker strict s.length (s.getLastD 0)
  else .error (.invalidLength s.length)

end Shape

end Z85
