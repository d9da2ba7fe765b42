import Z85.Proofs.RoundTrip

namespace Z85

namespace Shape

/-- How a shape lays out a text: its frames are the text's whole groups of five characters, each
inside the text, there is one whenever the text is not empty, and its size is covered once by the
words of the frames before the last and the first `4 - padding` bytes of the last word. -/
structure Fits (sh : Shape) (s : List UInt8) : Prop where
  frames_eq : sh.frames = s.length / 5
  padding_le : sh.padding ≤ 3
  size_eq : (sh.size : Int) = 4 * sh.frames - sh.padding
  frames_pos : 0 < s.length → 1 ≤ sh.frames
  size_gt : 4 * ((sh.frames : Int) - 1) < sh.size
  size_le : sh.size ≤ 4 * sh.frames
  frame_inside : ∀ f < sh.frames, 5 * f + 5 ≤ s.length
  words_cover : 0 < sh.frames → 4 * (sh.frames - 1) + (4 - sh.padding) = sh.size

theorem fits_of_ofText {strict : Bool} {s : List UInt8} {sh : Shape}
    (h : ofText strict s = .ok sh) : sh.Fits s := by
  obtain ⟨hk, hadm⟩ := (ofText_eq_ok_iff strict s sh).mp h
  have hp := sh.padding_lt
  have hsize : sh.size = sh.frames * 4 - sh.padding := rfl
  have hpad : sh.padding = 0 ∨ 1 ≤ sh.frames := by
    by_cases hp0 : 0 < sh.padding
    · have := hadm.length_of_padding hp0
      omega
    · omega
  have hlen := hadm.length_eq_zero_or
  refine ⟨hk, by omega, by omega, fun _ ↦ by omega, by omega, by omega, fun f hf ↦ by omega,
    fun hf ↦ by omega⟩

theorem read_eq_words {strict : Bool} {s b : List UInt8} {sh : Shape}
    (hsh : ofText strict s = .ok sh) (h : sh.read strict s = .ok b) (hf : 0 < sh.frames) :
    b = ((framesOf s).dropLast.flatMap fun cs ↦ wordBytes (number cs)) ++
      (wordBytes (number ((framesOf s).getLastD []))).take (4 - sh.padding) := by
  have hfits := fits_of_ofText hsh
  obtain ⟨-, -, rfl⟩ := (read_eq_ok_iff sh strict s b).mp h
  have hne : framesOf s ≠ [] := by
    rw [← List.length_pos_iff, length_framesOf, ← hfits.frames_eq]
    exact hf
  have hlead : ((framesOf s).dropLast.flatMap fun cs ↦ wordBytes (number cs)).length =
      4 * (sh.frames - 1) := by
    simp only [List.length_flatMap, length_wordBytes, List.map_const', List.sum_replicate_nat,
      List.length_dropLast, length_framesOf, hfits.frames_eq]
    omega
  have hcut : 4 * (sh.frames - 1) ≤ sh.size := by
    have := hfits.words_cover hf
    omega
  -- split the frames at the last one; the cut at `size` falls inside the last word
  conv => lhs; rw [← List.dropLast_append_getLast hne]
  rw [List.flatMap_append, List.flatMap_singleton, List.take_append,
    List.take_of_length_le (by rw [hlead]; exact hcut), hlead,
    ← hfits.words_cover hf, Nat.add_sub_cancel_left, List.getLastD_eq_getLast?,
    List.getLast?_eq_some_getLast hne]
  rfl

end Shape

theorem Codec.length_decodeInto (c : Codec) (dst s : List UInt8) :
    (c.decodeInto dst s).buffer.length = dst.length := by
  cases hsh : Shape.ofText c.strict s with
  | error e => rw [Codec.decodeInto_of_ofText_error hsh]
  | ok sh =>
    by_cases hlt : dst.length < sh.size
    · rw [Codec.decodeInto_of_lt hsh hlt]
    have hle : sh.size ≤ dst.length := Nat.le_of_not_lt hlt
    cases hr : sh.read c.strict s with
    | ok bs =>
      rw [Codec.decodeInto_of_read_ok hsh hle hr]
      dsimp only
      rw [List.length_append, Shape.length_read hsh hr, List.length_drop]
      omega
    | error e =>
      rw [Codec.decodeInto_of_read_error hsh hle hr]
      dsimp only
      rw [List.length_append, List.length_replicate, List.length_drop]
      omega

theorem Codec.drop_decodeInto {c : Codec} {s : List UInt8} {sh : Shape}
    (hsh : Shape.ofText c.strict s = .ok sh) (dst : List UInt8) :
    (c.decodeInto dst s).buffer.drop sh.size = dst.drop sh.size := by
  by_cases hlt : dst.length < sh.size
  · rw [Codec.decodeInto_of_lt hsh hlt]
  have hle : sh.size ≤ dst.length := Nat.le_of_not_lt hlt
  cases hr : sh.read c.strict s with
  | ok bs =>
    rw [Codec.decodeInto_of_read_ok hsh hle hr]
    dsimp only
    rw [List.drop_append_of_le_length (by rw [Shape.length_read hsh hr]), List.drop_of_length_le
      (by rw [Shape.length_read hsh hr]), List.nil_append]
  | error e =>
    rw [Codec.decodeInto_of_read_error hsh hle hr]
    dsimp only
    rw [List.drop_append_of_le_length (by rw [List.length_replicate]), List.drop_of_length_le
      (by rw [List.length_replicate]), List.nil_append]

/-- A text that reading can take has a shape that fits it: every frame lies inside the text, the
padding is at most three octets, and the size is four bytes a frame less the padding, more than
four bytes a frame before the last. Reading it gives exactly that many bytes, the words of the
frames before the last and the front of the last word, and reading it into a buffer leaves the
bytes past them as they were. No buffer changes its length. -/
theorem decode_within_bounds (c : Codec) (s : List UInt8) :
    (∀ sh, Shape.ofText c.strict s = .ok sh →
      sh.Fits s ∧
        (∀ b, c.decode s = .ok b → b.length = sh.size ∧
          (0 < sh.frames → b = ((framesOf s).dropLast.flatMap fun cs ↦ wordBytes (number cs)) ++
            (wordBytes (number ((framesOf s).getLastD []))).take (4 - sh.padding))) ∧
        ∀ dst, (c.decodeInto dst s).buffer.drop sh.size = dst.drop sh.size) ∧
      ∀ dst, (c.decodeInto dst s).buffer.length = dst.length := by
  refine ⟨fun sh hsh ↦ ⟨Shape.fits_of_ofText hsh, fun b hb ↦ ?_, Codec.drop_decodeInto hsh⟩,
    fun dst ↦ Codec.length_decodeInto c dst s⟩
  obtain ⟨sh', hsh', hr⟩ := (Codec.decode_eq_ok_iff_shape c s b).mp hb
  rw [hsh, Except.ok.injEq] at hsh'
  subst hsh'
  exact ⟨Shape.length_read hsh hr, Shape.read_eq_words hsh hr⟩

end Z85
