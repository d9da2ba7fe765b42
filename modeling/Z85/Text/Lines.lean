namespace Z85.Text.Lines

def limit : Nat := 65535

def segments (bs : List UInt8) : List (List UInt8) :=
  let parts := bs.splitOn 0x0A
  if parts.getLastD [] = [] then parts.dropLast else parts

def dropReturn (line : List UInt8) : List UInt8 :=
  if line.getLast? = some 0x0D then line.dropLast else line

/-- The lines of a byte string, or `none` when a line is longer than the limit. -/
def read? (bs : List UInt8) : Option (List (List UInt8)) :=
  if (segments bs).all (fun s ↦ s.length ≤ limit) then some ((segments bs).map dropReturn)
  else none

example : read? [0x61, 0x0D, 0x0A, 0x0A, 0x62] = some [[0x61], [], [0x62]] := by decide

example : read? [0x0D] = some [[]] ∧ read? [] = some [] ∧ read? [0x0A] = some [[]] := by decide

end Z85.Text.Lines
