namespace Z85.Text.Blank

def encodings : List (List UInt8) :=
  [[0x09], [0x0A], [0x0B], [0x0C], [0x0D], [0x20], [0xC2, 0x85], [0xC2, 0xA0],
    [0xE1, 0x9A, 0x80], [0xE2, 0x80, 0x80], [0xE2, 0x80, 0x81], [0xE2, 0x80, 0x82],
    [0xE2, 0x80, 0x83], [0xE2, 0x80, 0x84], [0xE2, 0x80, 0x85], [0xE2, 0x80, 0x86],
    [0xE2, 0x80, 0x87], [0xE2, 0x80, 0x88], [0xE2, 0x80, 0x89], [0xE2, 0x80, 0x8A],
    [0xE2, 0x80, 0xA8], [0xE2, 0x80, 0xA9], [0xE2, 0x80, 0xAF], [0xE2, 0x81, 0x9F],
    [0xE3, 0x80, 0x80]]

theorem length_pos : ∀ e ∈ encodings, 0 < e.length := by
  decide

def trimStart (bs : List UInt8) : List UInt8 :=
  match _h : encodings.find? (fun e ↦ e.isPrefixOf bs) with
  | some e => trimStart (bs.drop e.length)
  | none => bs
termination_by bs.length
decreasing_by
  have he := length_pos e (List.mem_of_find?_eq_some _h)
  have hp : e <+: bs := by simpa using List.find?_some _h
  have hl := hp.length_le
  simp only [List.length_drop]
  omega

def trimEnd (bs : List UInt8) : List UInt8 :=
  match _h : encodings.find? (fun e ↦ e.isSuffixOf bs) with
  | some e => trimEnd (bs.take (bs.length - e.length))
  | none => bs
termination_by bs.length
decreasing_by
  have he := length_pos e (List.mem_of_find?_eq_some _h)
  have hp : e <:+ bs := by simpa using List.find?_some _h
  have hl := hp.length_le
  simp only [List.length_take]
  omega

/-- The bytes without the blanks at either end. -/
def trim (bs : List UInt8) : List UInt8 :=
  trimEnd (trimStart bs)

end Z85.Text.Blank
