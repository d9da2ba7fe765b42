import Z85.Curve.Field

namespace Z85.Curve.Core

abbrev State := Vector UInt32 16

def rotl (x : UInt32) (n : UInt32) : UInt32 :=
  (x <<< n) ||| (x >>> (32 - n))

def quarter (s : State) (a b c d : Fin 16) : State :=
  let s := s.set b (s.get b ^^^ rotl (s.get a + s.get d) 7)
  let s := s.set c (s.get c ^^^ rotl (s.get b + s.get a) 9)
  let s := s.set d (s.get d ^^^ rotl (s.get c + s.get b) 13)
  s.set a (s.get a ^^^ rotl (s.get d + s.get c) 18)

def doubleRound (s : State) : State :=
  let s := quarter s 0 4 8 12
  let s := quarter s 5 9 13 1
  let s := quarter s 10 14 2 6
  let s := quarter s 15 3 7 11
  let s := quarter s 0 1 2 3
  let s := quarter s 5 6 7 4
  let s := quarter s 10 11 8 9
  quarter s 15 12 13 14

def word (bs : List UInt8) : UInt32 :=
  (littleEndian bs).toUInt32

def wordBytes (w : UInt32) : List UInt8 :=
  [w.toUInt8, (w >>> 8).toUInt8, (w >>> 16).toUInt8, (w >>> 24).toUInt8]

def words (bs : List UInt8) : List UInt32 :=
  (List.range (bs.length / 4)).map (fun i ↦ word ((bs.drop (4 * i)).take 4))

def sigma : List UInt32 :=
  [0x61707865, 0x3320646e, 0x79622d32, 0x6b206574]

def initial (key nonce : List UInt8) : State :=
  let k := words key
  let n := words nonce
  let ws := [sigma.getD 0 0] ++ k.take 4 ++ [sigma.getD 1 0] ++ n.take 4 ++ [sigma.getD 2 0] ++
    k.drop 4 ++ [sigma.getD 3 0]
  Vector.ofFn (fun i ↦ ws.getD i.val 0)

/-- HSalsa20 of a 32-byte key and a 16-byte nonce. -/
def hsalsa20 (key nonce : List UInt8) : List UInt8 :=
  let s := (List.range 10).foldl (fun s _ ↦ doubleRound s) (initial key nonce)
  [s.get 0, s.get 5, s.get 10, s.get 15, s.get 6, s.get 7, s.get 8, s.get 9].flatMap wordBytes

end Z85.Curve.Core
