import Z85.Buffer
import Z85.Text.Hex

namespace Z85.Curve

/-- A key: 32 bytes. -/
structure Key where
  bytes : List UInt8
  length_bytes : bytes.length = 32
  deriving DecidableEq, Repr

namespace Key

def zero : Key :=
  ⟨List.replicate 32 0, by simp⟩

def ofBytes (bs : List UInt8) : Key :=
  ⟨(bs ++ List.replicate 32 0).take 32, by simp⟩

def text (k : Key) : List UInt8 :=
  encode k.bytes

def toText (k : Key) : String :=
  encodeString k.bytes

def hexText (k : Key) : List UInt8 :=
  Text.Hex.encodeBytes k.bytes

def toHex (k : Key) : String :=
  Text.Hex.encode k.bytes

end Key

inductive KeyError where
  | textLength (length : Nat)
  | text (e : Error)
  | hex (e : Text.Hex.Error)
  | size (size : Nat)
  deriving DecidableEq, Repr

namespace KeyError

def kinds : KeyError → List Kind
  | text e => [.invalidKey, e.kind]
  | hex e => [.invalidKey, e.kind]
  | _ => [.invalidKey]

def detail : KeyError → String
  | textLength n => "Z85 key must be 40 characters, got " ++ toString n
  | text e => e.message
  | hex e => e.message
  | size n => "key must be 32 bytes, got " ++ toString n

def message (e : KeyError) : String :=
  "curvekey: invalid key: " ++ e.detail

end KeyError

structure KeyReading where
  key : Key
  failure : Option KeyError

namespace Key

/-- Reads a key's text into a zeroed key with the canonical codec. -/
def readText (s : List UInt8) : KeyReading :=
  if s.length = 40 then
    let filled := Codec.canonical.decodeInto zero.bytes s
    match filled.written with
    | .ok _ => ⟨ofBytes filled.buffer, none⟩
    | .error e => ⟨ofBytes filled.buffer, some (.text e)⟩
  else ⟨zero, some (.textLength s.length)⟩

def ofText (s : List UInt8) : Except KeyError Key :=
  match (readText s).failure with
  | some e => .error e
  | none => .ok (readText s).key

/-- Whether a text is the text of a key, checked without building the key. -/
def validateText (s : List UInt8) : Except KeyError Unit :=
  if s.length = 40 then
    match Codec.canonical.validate s with
    | .ok () => .ok ()
    | .error e => .error (.text e)
  else .error (.textLength s.length)

def ofHex (s : List UInt8) : Except KeyError Key :=
  match Text.Hex.decode s with
  | .error e => .error (.hex e)
  | .ok bs => if h : bs.length = 32 then .ok ⟨bs, h⟩ else .error (.size bs.length)

end Key

end Z85.Curve
