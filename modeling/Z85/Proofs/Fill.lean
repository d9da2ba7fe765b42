import Z85.Proofs.Bounds

namespace Z85

theorem Shape.size_of_ofText {strict : Bool} {s : List UInt8} {sh : Shape}
    (h : Shape.ofText strict s = .ok sh) : sh.size = 4 * (s.length / 5) - sh.padding := by
  rw [Shape.size, ((Shape.ofText_eq_ok_iff strict s sh).mp h).1, Nat.mul_comm]

namespace Codec

variable {c : Codec} {dst s : List UInt8}

theorem decode_of_ofText_error {e : Error} (h : Shape.ofText c.strict s = .error e) :
    c.decode s = .error e := by
  rw [decode, h]

theorem decode_of_ofText_ok {sh : Shape} (h : Shape.ofText c.strict s = .ok sh) :
    c.decode s = sh.read c.strict s := by
  rw [decode, h]

theorem decodeInto_of_le_of_ok {sh : Shape} {bs : List UInt8}
    (h : Shape.ofText c.strict s = .ok sh) (hle : sh.size ≤ dst.length)
    (hb : c.decode s = .ok bs) :
    c.decodeInto dst s = ⟨.ok sh.size, bs ++ dst.drop sh.size⟩ := by
  rw [decode_of_ofText_ok h] at hb
  exact decodeInto_of_read_ok h hle hb

theorem decodeInto_of_le_of_error {sh : Shape} {e : Error}
    (h : Shape.ofText c.strict s = .ok sh) (hle : sh.size ≤ dst.length)
    (he : c.decode s = .error e) :
    c.decodeInto dst s = ⟨.error e, List.replicate sh.size 0 ++ dst.drop sh.size⟩ := by
  rw [decode_of_ofText_ok h] at he
  exact decodeInto_of_read_error h hle he

theorem decodeInto_of_decode (dst : List UInt8) {bs : List UInt8} (h : c.decode s = .ok bs)
    (hle : bs.length ≤ dst.length) :
    c.decodeInto dst s = ⟨.ok bs.length, bs ++ dst.drop bs.length⟩ := by
  obtain ⟨sh, hsh, hr⟩ := (decode_eq_ok_iff_shape c s bs).mp h
  have hlen := Shape.length_read hsh hr
  rw [hlen] at hle ⊢
  exact decodeInto_of_le_of_ok hsh hle h

theorem decodeInto_of_decode_error (dst : List UInt8) {e : Error} (he : c.decode s = .error e)
    (hle : 4 * (s.length / 5) ≤ dst.length) : (c.decodeInto dst s).written = .error e := by
  cases hsh : Shape.ofText c.strict s with
  | error e' =>
    rw [decode_of_ofText_error hsh] at he
    rw [decodeInto_of_ofText_error hsh, Except.error.inj he]
  | ok sh =>
    have hsize := Shape.size_of_ofText hsh
    rw [decodeInto_of_le_of_error hsh (by omega) he]

end Codec

/-- Reading into a buffer agrees with reading. With `L` the bytes of the text's shape: a failure
of the length or the marker is reported as reading reports it, and the buffer is kept; a buffer
shorter than `L` is refused, and kept; past that, the buffer gets the bytes of the text in front
and keeps the rest, or, when reading fails in a frame or in the padding, gets the same failure
with its first `L` bytes cleared to zero and the rest kept. -/
theorem decodeInto_agrees_with_decode (c : Codec) (dst s : List UInt8) :
    (∀ e, Shape.ofText c.strict s = .error e →
      c.decode s = .error e ∧ c.decodeInto dst s = ⟨.error e, dst⟩) ∧
    ∀ sh, Shape.ofText c.strict s = .ok sh →
      sh.size = 4 * (s.length / 5) - sh.padding ∧
      (dst.length < sh.size →
        c.decodeInto dst s = ⟨.error (.shortBuffer sh.size dst.length), dst⟩ ∧
        (Error.shortBuffer sh.size dst.length).message =
          "z85: destination buffer too small: need " ++ toString sh.size ++ ", got " ++
            toString dst.length) ∧
      (sh.size ≤ dst.length → ∀ bs, c.decode s = .ok bs →
        bs.length = sh.size ∧ c.decodeInto dst s = ⟨.ok sh.size, bs ++ dst.drop sh.size⟩) ∧
      (sh.size ≤ dst.length → ∀ e, c.decode s = .error e →
        c.decodeInto dst s = ⟨.error e, List.replicate sh.size 0 ++ dst.drop sh.size⟩) := by
  refine ⟨fun e h ↦ ⟨Codec.decode_of_ofText_error h, Codec.decodeInto_of_ofText_error h⟩,
    fun sh h ↦ ⟨Shape.size_of_ofText h, fun hlt ↦ ⟨Codec.decodeInto_of_lt h hlt, rfl⟩,
      fun hle bs hb ↦ ?_, fun hle e he ↦ ?_⟩⟩
  · have hr : sh.read c.strict s = .ok bs := by rwa [← Codec.decode_of_ofText_ok h]
    exact ⟨Shape.length_read h hr, Codec.decodeInto_of_le_of_ok h hle hb⟩
  · exact Codec.decodeInto_of_le_of_error h hle he

end Z85
