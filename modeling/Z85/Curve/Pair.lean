import Z85.Curve.Core
import Z85.Curve.Key
import Z85.Curve.Ladder

namespace Z85.Curve

/-- A public key and a secret key. -/
structure KeyPair where
  publicKey : Key
  secretKey : Key
  deriving DecidableEq, Repr

inductive Part where
  | publicKey
  | secretKey
  deriving DecidableEq, Repr

def Part.name : Part → String
  | .publicKey => "public key"
  | .secretKey => "secret key"

structure PairError where
  part : Part
  error : KeyError
  deriving DecidableEq, Repr

def PairError.message (e : PairError) : String :=
  e.part.name ++ ": " ++ e.error.message

inductive GenerateError where
  | empty
  | short
  deriving DecidableEq, Repr

namespace GenerateError

def kind : GenerateError → Kind
  | empty => .endOfInput
  | short => .unexpectedEnd

def message : GenerateError → String
  | empty => "curvekey: failed to generate key pair: EOF"
  | short => "curvekey: failed to generate key pair: unexpected EOF"

end GenerateError

namespace Key

def publicOf (secret : Key) : Key :=
  ofBytes (x25519 secret.bytes basePoint)

end Key

namespace KeyPair

def ofParts (read : List UInt8 → Except KeyError Key) (pub sec : List UInt8) :
    Except PairError KeyPair :=
  match read pub with
  | .error e => .error ⟨.publicKey, e⟩
  | .ok p =>
    match read sec with
    | .error e => .error ⟨.secretKey, e⟩
    | .ok s => .ok ⟨p, s⟩

def ofTexts (pub sec : List UInt8) : Except PairError KeyPair :=
  ofParts Key.ofText pub sec

def ofHex (pub sec : List UInt8) : Except PairError KeyPair :=
  ofParts Key.ofHex pub sec

/-- A new pair whose secret is the first 32 bytes of `source`. -/
def generate (source : List UInt8) : Except GenerateError KeyPair :=
  if source.length = 0 then .error .empty
  else if source.length < 32 then .error .short
  else
    let secret := Key.ofBytes (source.take 32)
    .ok ⟨secret.publicOf, secret⟩

/-- The key shared by a pair's secret and a peer's public key. -/
def sharedKey (kp : KeyPair) (peer : Key) : Key :=
  Key.ofBytes (Core.hsalsa20 (x25519 kp.secretKey.bytes peer.bytes) (List.replicate 16 0))

end KeyPair

end Z85.Curve
