import Z85.Proofs.Commands
import Z85.Proofs.Concat

namespace Z85

theorem length_encode_take_four_mul {src : List UInt8} {f : Nat} (h : 4 * f ≤ src.length) :
    (encode (src.take (4 * f))).length = 5 * f := by
  rw [length_encode, List.length_take, Nat.min_eq_left h, textLength_four_mul]

theorem encode_take_succ {src : List UInt8} {f : Nat} (h : 4 * f + 4 ≤ src.length) :
    encode (src.take (4 * (f + 1))) =
      encode (src.take (4 * f)) ++ Frame.write (Word.value ((src.drop (4 * f)).take 4)) := by
  have hgroup : ((src.drop (4 * f)).take 4).length = 4 := by
    rw [List.length_take, List.length_drop]
    omega
  have htail := encode_append_four hgroup []
  rw [List.append_nil] at htail
  rw [Nat.mul_succ, List.take_add, encode_append (by rw [List.length_take]; omega), htail]
  rfl

theorem encode_eq_append_tail {src : List UInt8} (h : 0 < src.length % 4) :
    encode src = encode (src.take (4 * (src.length / 4))) ++
      encodeTail (src.drop (4 * (src.length / 4))) := by
  have hrest : (src.drop (4 * (src.length / 4))).length = src.length % 4 := by
    rw [List.length_drop]
    omega
  conv => lhs; rw [← List.take_append_drop (4 * (src.length / 4)) src]
  rw [encode_append (by rw [List.length_take]; omega),
    @encode_of_length_lt (src.drop (4 * (src.length / 4))) (by omega) (by omega)]

namespace Writer

/-- Where a run over the window `w` stands after the first `f` whole groups: the first `5 f`
places hold the text of the first `4 f` source bytes, the others are as they were, and the next
place to write is `5 f`, the next byte to read `4 f`. -/
def after (w src : List UInt8) (f : Nat) : Cursor :=
  ⟨encode (src.take (4 * f)) ++ w.drop (5 * f), 5 * f, 4 * f⟩

@[simp] theorem window_after (w src : List UInt8) (f : Nat) :
    (after w src f).window = encode (src.take (4 * f)) ++ w.drop (5 * f) :=
  rfl

@[simp] theorem wrote_after (w src : List UInt8) (f : Nat) : (after w src f).wrote = 5 * f :=
  rfl

@[simp] theorem read_after (w src : List UInt8) (f : Nat) : (after w src f).read = 4 * f :=
  rfl

theorem after_zero (w src : List UInt8) : after w src 0 = ⟨w, 0, 0⟩ := by
  simp only [after, Nat.mul_zero, List.take_zero, List.drop_zero]
  rfl

variable {w src : List UInt8}

theorem five_mul_le_length {f : Nat} (hw : w.length = textLength src.length)
    (hf : 4 * f ≤ src.length) : 5 * f ≤ w.length := by
  rw [hw, textLength]
  split <;> omega

theorem length_window_after {f : Nat} (hw : w.length = textLength src.length)
    (hf : 4 * f ≤ src.length) : (after w src f).window.length = w.length := by
  have hroom := five_mul_le_length hw hf
  simp only [after, List.length_append, length_encode_take_four_mul hf, List.length_drop]
  omega

theorem frameStep_after {f : Nat} (hw : w.length = textLength src.length)
    (hf : 4 * f + 4 ≤ src.length) :
    frameStep src (after w src f) = .ok (after w src (f + 1)) := by
  have hroom := five_mul_le_length hw (f := f + 1) (by omega)
  have htext := length_encode_take_four_mul (Nat.le_of_add_right_le hf)
  have hwindow := length_window_after hw (Nat.le_of_add_right_le hf)
  rw [frameStep_eq (c := after w src f) hf (by rw [hwindow, wrote_after]; omega), window_after,
    wrote_after, read_after, overwrite_after_prefix htext, List.drop_drop,
    ← encode_take_succ hf]
  rfl

theorem frameLoop_after (hw : w.length = textLength src.length) {k : Nat} :
    ∀ f, 4 * (f + k) ≤ src.length →
      frameLoop src k (after w src f) = .ok (after w src (f + k)) := by
  induction k with
  | zero => intro f _; rfl
  | succ k ih =>
    intro f hk
    have hstep := frameStep_after hw (f := f) (by omega)
    rw [frameLoop_succ, hstep]
    dsimp only [bind, Except.bind]
    rw [ih (f + 1) (by omega), Nat.add_right_comm, Nat.add_assoc]

theorem tailStep_after (hw : w.length = textLength src.length) (hr : 0 < src.length % 4) :
    tailStep src (src.length % 4) (after w src (src.length / 4)) =
      .ok ⟨encode src, textLength src.length, 4 * (src.length / 4)⟩ := by
  have hwhole : 4 * (src.length / 4) ≤ src.length := Nat.mul_div_le src.length 4
  have htext := length_encode_take_four_mul hwhole
  have hplan := textLength_of_mod_pos hr
  have hrest : (src.drop (4 * (src.length / 4))).length = src.length % 4 := by
    rw [List.length_drop]
    omega
  have htail : Frame.write (Word.value
      ((src.drop (4 * (src.length / 4)) ++ List.replicate 4 0).take 4)) ++
      [digitByte (4 - src.length % 4)] = encodeTail (src.drop (4 * (src.length / 4))) := by
    rw [encodeTail, hrest, List.take_append, List.take_of_length_le (by omega),
      List.take_replicate, hrest, Nat.min_eq_left (by omega)]
  have hend : (w.drop (5 * (src.length / 4))).drop 6 = [] :=
    List.drop_of_length_le (by rw [List.length_drop]; omega)
  rw [tailStep_eq (c := after w src (src.length / 4)) hwhole
      (by rw [length_window_after hw hwhole, wrote_after]; omega),
    window_after, wrote_after, read_after, overwrite_after_prefix htext, htail, hend,
    List.append_nil, ← encode_eq_append_tail hr, hplan]

/-- A run over a window of the planned length never stops, and leaves the text of the source in
the window. -/
theorem run_eq_encode (hw : w.length = textLength src.length) : run w src = .ok (encode src) := by
  have hloop := frameLoop_after hw (k := src.length / 4) 0 (by omega)
  rw [Nat.zero_add, after_zero] at hloop
  rw [run, hloop]
  dsimp only [bind, Except.bind]
  by_cases hr : 0 < src.length % 4
  · rw [if_pos hr, tailStep_after hw hr]
    dsimp only
    rw [if_pos rfl]
    rfl
  · have hsrc : src.take (4 * (src.length / 4)) = src := List.take_of_length_le (by omega)
    have hplan := textLength_of_mod_eq_zero (Nat.eq_zero_of_not_pos hr)
    have hend : w.drop (5 * (src.length / 4)) = [] := List.drop_of_length_le (by omega)
    rw [if_neg hr]
    dsimp only [pure, Except.pure]
    rw [wrote_after, if_pos hplan.symm, window_after, hsrc, hend, List.append_nil]

end Writer

/-- The writer follows its plan on every source and every window of the planned length. The
`f`-th whole group is read from the source bytes `4 f .. 4 f + 3` and written over the places
`5 f .. 5 f + 4` of the window, both inside; with no short group, these fill the window. A short
last group is read from the bytes left after the whole groups and written, frame and marker, over
the six places from `5 F`, the last of the window. So a run writes as many places as planned and
never stops, and what it leaves is the text of the source, which has the planned length and only
characters of the alphabet. -/
theorem writer_follows_plan (src w : List UInt8) (hw : w.length = textLength src.length) :
    (∀ f < src.length / 4, 4 * f + 4 ≤ src.length ∧ 5 * f + 5 ≤ w.length ∧
      Writer.frameStep src (Writer.after w src f) =
        .ok ⟨(Writer.after w src f).window.take (5 * f) ++
            Frame.write (Word.value ((src.drop (4 * f)).take 4)) ++
            (Writer.after w src f).window.drop (5 * f + 5), 5 * f + 5, 4 * f + 4⟩) ∧
    Writer.frameLoop src (src.length / 4) ⟨w, 0, 0⟩ = .ok (Writer.after w src (src.length / 4)) ∧
    (src.length % 4 = 0 → 5 * (src.length / 4) = w.length) ∧
    (0 < src.length % 4 → 5 * (src.length / 4) + 6 = w.length ∧
      Writer.tailStep src (src.length % 4) (Writer.after w src (src.length / 4)) =
        .ok ⟨(Writer.after w src (src.length / 4)).window.take (5 * (src.length / 4)) ++
          encodeTail (src.drop (4 * (src.length / 4))), w.length, 4 * (src.length / 4)⟩) ∧
    Writer.run w src = .ok (encode src) ∧
    (encode src).length = textLength src.length ∧ ∀ b ∈ encode src, b ∈ alphabet := by
  refine ⟨fun f hf ↦ ?_, ?_, fun hr ↦ ?_, fun hr ↦ ?_, Writer.run_eq_encode hw,
    length_encode src, fun b hb ↦ mem_encode hb⟩
  · have hroom := Writer.five_mul_le_length hw (f := f + 1) (by omega)
    have hwindow := Writer.length_window_after hw (f := f) (by omega)
    refine ⟨by omega, by omega, ?_⟩
    rw [Writer.frameStep_eq (by rw [Writer.read_after]; omega)
      (by rw [hwindow, Writer.wrote_after]; omega), Writer.wrote_after, Writer.read_after]
  · rw [← Writer.after_zero w src, Writer.frameLoop_after hw 0 (by omega), Nat.zero_add]
  · rw [hw, textLength_of_mod_eq_zero hr]
  · have hwhole : 4 * (src.length / 4) ≤ src.length := Nat.mul_div_le src.length 4
    have hlen : 5 * (src.length / 4) + 6 = w.length := by
      rw [hw, textLength_of_mod_pos hr]
    refine ⟨hlen, ?_⟩
    rw [Writer.tailStep_after hw hr, encode_eq_append_tail hr, Writer.window_after,
      List.take_left' (length_encode_take_four_mul hwhole), hw]

theorem writer_follows_plan_five :
    (List.replicate 11 (0 : UInt8)).length = textLength [0x86, 0x4F, 0xD2, 0x6F, 0x42].length ∧
    (∀ f < [0x86, 0x4F, 0xD2, 0x6F, 0x42].length / 4,
      4 * f + 4 ≤ [0x86, 0x4F, 0xD2, 0x6F, 0x42].length ∧ 5 * f + 5 ≤ (List.replicate 11 0).length ∧
      Writer.frameStep [0x86, 0x4F, 0xD2, 0x6F, 0x42]
          (Writer.after (List.replicate 11 0) [0x86, 0x4F, 0xD2, 0x6F, 0x42] f) =
        .ok ⟨(Writer.after (List.replicate 11 0) [0x86, 0x4F, 0xD2, 0x6F, 0x42] f).window.take
              (5 * f) ++
            Frame.write (Word.value (([0x86, 0x4F, 0xD2, 0x6F, 0x42].drop (4 * f)).take 4)) ++
            (Writer.after (List.replicate 11 0) [0x86, 0x4F, 0xD2, 0x6F, 0x42] f).window.drop
              (5 * f + 5), 5 * f + 5, 4 * f + 4⟩) ∧
    Writer.frameLoop [0x86, 0x4F, 0xD2, 0x6F, 0x42] ([0x86, 0x4F, 0xD2, 0x6F, 0x42].length / 4)
        ⟨List.replicate 11 0, 0, 0⟩ =
      .ok (Writer.after (List.replicate 11 0) [0x86, 0x4F, 0xD2, 0x6F, 0x42]
        ([0x86, 0x4F, 0xD2, 0x6F, 0x42].length / 4)) ∧
    ([0x86, 0x4F, 0xD2, 0x6F, 0x42].length % 4 = 0 →
      5 * ([0x86, 0x4F, 0xD2, 0x6F, 0x42].length / 4) = (List.replicate 11 0).length) ∧
    (0 < [0x86, 0x4F, 0xD2, 0x6F, 0x42].length % 4 →
      5 * ([0x86, 0x4F, 0xD2, 0x6F, 0x42].length / 4) + 6 = (List.replicate 11 0).length ∧
      Writer.tailStep [0x86, 0x4F, 0xD2, 0x6F, 0x42] ([0x86, 0x4F, 0xD2, 0x6F, 0x42].length % 4)
          (Writer.after (List.replicate 11 0) [0x86, 0x4F, 0xD2, 0x6F, 0x42]
            ([0x86, 0x4F, 0xD2, 0x6F, 0x42].length / 4)) =
        .ok ⟨(Writer.after (List.replicate 11 0) [0x86, 0x4F, 0xD2, 0x6F, 0x42]
              ([0x86, 0x4F, 0xD2, 0x6F, 0x42].length / 4)).window.take
              (5 * ([0x86, 0x4F, 0xD2, 0x6F, 0x42].length / 4)) ++
            encodeTail ([0x86, 0x4F, 0xD2, 0x6F, 0x42].drop
              (4 * ([0x86, 0x4F, 0xD2, 0x6F, 0x42].length / 4))),
          (List.replicate 11 0).length, 4 * ([0x86, 0x4F, 0xD2, 0x6F, 0x42].length / 4)⟩) ∧
    Writer.run (List.replicate 11 0) [0x86, 0x4F, 0xD2, 0x6F, 0x42] =
      .ok (encode [0x86, 0x4F, 0xD2, 0x6F, 0x42]) ∧
    (encode [0x86, 0x4F, 0xD2, 0x6F, 0x42]).length =
      textLength [0x86, 0x4F, 0xD2, 0x6F, 0x42].length ∧
    ∀ b ∈ encode [0x86, 0x4F, 0xD2, 0x6F, 0x42], b ∈ alphabet :=
  ⟨by decide, writer_follows_plan [0x86, 0x4F, 0xD2, 0x6F, 0x42] (List.replicate 11 0) (by decide)⟩

theorem encodeInto_of_le {dst src : List UInt8} (h : textLength src.length ≤ dst.length) :
    encodeInto dst src =
      .ok ⟨.ok (textLength src.length), encode src ++ dst.drop (textLength src.length)⟩ := by
  have hwindow : (dst.take (textLength src.length)).length = textLength src.length := by
    rw [List.length_take, Nat.min_eq_left h]
  rw [encodeInto, if_neg (Nat.not_lt.mpr h), Writer.run_eq_encode hwindow]
  rfl

theorem encodeInto_of_lt {dst src : List UInt8} (h : dst.length < textLength src.length) :
    encodeInto dst src = .ok ⟨.error (.shortBuffer (textLength src.length) dst.length), dst⟩ := by
  rw [encodeInto, if_pos h]

theorem appendEncode_eq (pre src : List UInt8) :
    appendEncode pre src = .ok (pre ++ encode src) := by
  rw [appendEncode, List.drop_left, List.take_left, Writer.run_eq_encode (List.length_replicate ..)]
  rfl

/-- Writing into a caller's buffer gives the text of the source and touches nothing else. With
`E` the planned length: a buffer of `E` bytes or more is answered `E`, its first `E` bytes become
the text and the others stay as they were; a shorter buffer is refused, with the message that
names both lengths, and stays as it was. Writing after any prefix gives the prefix followed by the
text. No call stops on a fault of the writer. -/
theorem encodeInto_writes_text (dst src : List UInt8) :
    (textLength src.length ≤ dst.length → ∃ buf,
      encodeInto dst src = .ok ⟨.ok (textLength src.length), buf⟩ ∧ buf.length = dst.length ∧
        buf.take (textLength src.length) = encode src ∧
        buf.drop (textLength src.length) = dst.drop (textLength src.length)) ∧
    (dst.length < textLength src.length →
      encodeInto dst src = .ok ⟨.error (.shortBuffer (textLength src.length) dst.length), dst⟩ ∧
        (Error.shortBuffer (textLength src.length) dst.length).message =
          "z85: destination buffer too small: need " ++ toString (textLength src.length) ++
            ", got " ++ toString dst.length) ∧
    ∀ pre, appendEncode pre src = .ok (pre ++ encode src) := by
  refine ⟨fun h ↦ ⟨_, encodeInto_of_le h, ?_, ?_, ?_⟩, fun h ↦ ⟨encodeInto_of_lt h, rfl⟩,
    fun pre ↦ appendEncode_eq pre src⟩
  · rw [List.length_append, length_encode, List.length_drop]
    omega
  · exact List.take_left' (length_encode src)
  · exact List.drop_left' (length_encode src)

end Z85
