import Z85.Positional
import Z85.Text.Printable
import Z85.Text.Utf8

namespace Z85.Text.Quoted

def hexChar (d : Nat) : Char :=
  if d < 10 then Char.ofNat (0x30 + d) else Char.ofNat (0x57 + d)

def hexDigits (width n : Nat) : List Char :=
  (Positional.digits 16 width n).map hexChar

def escape (cp : Nat) : List Char :=
  match cp with
  | 0x07 => ['\\', 'a']
  | 0x08 => ['\\', 'b']
  | 0x0C => ['\\', 'f']
  | 0x0A => ['\\', 'n']
  | 0x0D => ['\\', 'r']
  | 0x09 => ['\\', 't']
  | 0x0B => ['\\', 'v']
  | _ =>
    if cp < 0x20 ∨ cp = 0x7F then '\\' :: 'x' :: hexDigits 2 cp
    else if cp < 0x10000 then '\\' :: 'u' :: hexDigits 4 cp
    else '\\' :: 'U' :: hexDigits 8 cp

def char (q : Char) (cp : Nat) : List Char :=
  if cp = q.toNat ∨ cp = 0x5C then ['\\', Char.ofNat cp]
  else if isPrintable cp then [Char.ofNat cp]
  else escape cp

def rune (cp : Nat) : String :=
  "'" ++ String.ofList (char (Char.ofNat 0x27) cp) ++ "'"

/-- A byte in single quotes, shown as the code point of the same number. -/
def byte (b : UInt8) : String :=
  rune b.toNat

def piece : Utf8.Piece → List Char
  | .scalar cp => char '"' cp
  | .stray b => '\\' :: 'x' :: hexDigits 2 b.toNat

/-- A byte string in double quotes, piece by piece. -/
def bytes (bs : List UInt8) : String :=
  "\"" ++ String.ofList ((Utf8.pieces bs).flatMap piece) ++ "\""

def upperHexChar (d : Nat) : Char :=
  if d < 10 then Char.ofNat (0x30 + d) else Char.ofNat (0x37 + d)

def codePoint (cp : Nat) : String :=
  let width := if cp < 0x10000 then 4 else if cp < 0x100000 then 5 else 6
  "U+" ++ String.ofList ((Positional.digits 16 width cp).map upperHexChar) ++
    (if isPrintable cp then " '" ++ String.singleton (Char.ofNat cp) ++ "'" else "")

theorem length_hexDigits (width n : Nat) : (hexDigits width n).length = width := by
  simp [hexDigits]

example : byte 0x41 = "'A'" ∧ byte 0x27 = "'\\''" ∧ byte 0x22 = "'\"'" ∧
    byte 0x0A = "'\\n'" ∧
    byte 0x00 = "'\\x00'" ∧ byte 0x7F = "'\\x7f'" ∧ byte 0x85 = "'\\u0085'" ∧
    byte 0xE9 = "'é'" := by decide +kernel

example : codePoint 0x7A = "U+007A 'z'" ∧ codePoint 0x0A = "U+000A" := by decide +kernel

end Z85.Text.Quoted
