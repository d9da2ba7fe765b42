import Z85.Kind
import Z85.Text.Quoted

namespace Z85

/-- Why a text could not be read, or a buffer could not be filled. -/
inductive Error where
  | invalidLength (length : Nat)
  | badMarker (byte : UInt8) (pos : Nat)
  | zeroMarker
  | badCharacter (byte : UInt8) (pos : Nat)
  | overflow (pos : Nat)
  | nonZeroPadding
  | shortBuffer (need size : Nat)
  deriving DecidableEq, Repr

namespace Error

def kind : Error → Kind
  | invalidLength _ => .invalidLength
  | badMarker .. => .invalidCharacter
  | zeroMarker => .nonCanonical
  | badCharacter .. => .invalidCharacter
  | overflow _ => .frameOverflow
  | nonZeroPadding => .nonCanonical
  | shortBuffer .. => .shortBuffer

def kindText : Kind → String
  | .invalidLength => "z85: invalid input length"
  | .invalidCharacter => "z85: invalid character"
  | .frameOverflow => "z85: frame value overflows 32 bits"
  | .shortBuffer => "z85: destination buffer too small"
  | _ => "z85: non-canonical encoding"

def detail : Error → String
  | invalidLength n => toString n
  | badMarker b pos => "padding marker " ++ Text.Quoted.byte b ++ " at position " ++ toString pos
  | zeroMarker => "zero padding marker"
  | badCharacter b pos => "character " ++ Text.Quoted.byte b ++ " at position " ++ toString pos
  | overflow pos => "frame at position " ++ toString pos
  | nonZeroPadding => "non-zero padding in final frame"
  | shortBuffer need size => "need " ++ toString need ++ ", got " ++ toString size

/-- The message of a failure: its class's text, a colon and the facts. -/
def message (e : Error) : String :=
  kindText e.kind ++ ": " ++ e.detail

example : (invalidLength 4).message = "z85: invalid input length: 4" := by decide +kernel

end Error

end Z85
