import Z85.Proofs.Reference

namespace Z85

def zeroExtend (src : List UInt8) : List UInt8 :=
  src ++ List.replicate ((4 - src.length % 4) % 4) 0

def wordAt (bs : List UInt8) (g : Nat) : Nat :=
  (bs.getD (4 * g) 0).toNat * 16777216 + (bs.getD (4 * g + 1) 0).toNat * 65536 +
    (bs.getD (4 * g + 2) 0).toNat * 256 + (bs.getD (4 * g + 3) 0).toNat

def digitChars (v : Nat) : List UInt8 :=
  [v / 85 ^ 4 % 85, v / 85 ^ 3 % 85, v / 85 ^ 2 % 85, v / 85 % 85, v % 85].map
    fun d ↦ alphabet.getD d 0

/-- The text the format prescribes: five characters for each word of the zero-extended bytes,
then, when `r` bytes fill the last word only in part, the marker `4 - r`. -/
def referenceText (src : List UInt8) : List UInt8 :=
  ((List.range ((zeroExtend src).length / 4)).flatMap fun g ↦
      digitChars (wordAt (zeroExtend src) g)) ++
    if src.length % 4 = 0 then [] else [alphabet.getD (4 - src.length % 4) 0]

namespace Rfc32

structure State where
  value : Nat
  count : Nat
  out : List UInt8

def emit (value : Nat) : Nat → List UInt8
  | 0 => [alphabet.getD (value % 85) 0]
  | k + 1 => alphabet.getD (value / 85 ^ (k + 1) % 85) 0 :: emit value k

def push (st : State) (b : UInt8) : State :=
  if (st.count + 1) % 4 = 0 then ⟨0, st.count + 1, st.out ++ emit (st.value * 256 + b.toNat) 4⟩
  else ⟨st.value * 256 + b.toNat, st.count + 1, st.out⟩

def encode (data : List UInt8) : Option (List UInt8) :=
  if data.length % 4 = 0 then some (data.foldl push ⟨0, 0, []⟩).out else none

example : encode [0x86, 0x4F, 0xD2, 0x6F, 0xB5, 0x59, 0xF7, 0x5B] =
    some [0x48, 0x65, 0x6C, 0x6C, 0x6F, 0x57, 0x6F, 0x72, 0x6C, 0x64] := by
  decide

end Rfc32

theorem Frame.write_eq_digitChars (v : Nat) : Frame.write v = digitChars v := by
  simp only [Frame.write, Positional.digits, Nat.div_div_eq_div_mul, List.nil_append,
    List.cons_append, List.map_cons, List.map_nil, digitChars, digitByte]
  norm_num

theorem Rfc32.emit_four (v : Nat) : Rfc32.emit v 4 = Frame.write v := by
  rw [Frame.write_eq_digitChars]
  simp only [Rfc32.emit, digitChars, List.map_cons, List.map_nil]
  rfl

theorem Word.value_four (b0 b1 b2 b3 : UInt8) :
    Word.value [b0, b1, b2, b3] =
      b0.toNat * 16777216 + b1.toNat * 65536 + b2.toNat * 256 + b3.toNat := by
  simp only [Word.value, Positional.value, List.map_cons, List.map_nil, List.foldl_cons,
    List.foldl_nil]
  ring

theorem wordAt_cons_zero (b0 b1 b2 b3 : UInt8) (rest : List UInt8) :
    wordAt (b0 :: b1 :: b2 :: b3 :: rest) 0 = Word.value [b0, b1, b2, b3] := by
  rw [Word.value_four]
  rfl

theorem wordAt_cons_succ (b0 b1 b2 b3 : UInt8) (rest : List UInt8) (g : Nat) :
    wordAt (b0 :: b1 :: b2 :: b3 :: rest) (g + 1) = wordAt rest g := by
  simp only [wordAt, show 4 * (g + 1) = 4 * g + 4 by omega, List.getD_cons_succ]

theorem zeroExtend_cons (b0 b1 b2 b3 : UInt8) (rest : List UInt8) :
    zeroExtend (b0 :: b1 :: b2 :: b3 :: rest) = b0 :: b1 :: b2 :: b3 :: zeroExtend rest := by
  simp only [zeroExtend, List.length_cons, List.cons_append,
    show (rest.length + 1 + 1 + 1 + 1) % 4 = rest.length % 4 by omega]

theorem length_zeroExtend (src : List UInt8) :
    (zeroExtend src).length = 4 * ((src.length + 3) / 4) := by
  simp only [zeroExtend, List.length_append, List.length_replicate]
  omega

theorem referenceText_cons (b0 b1 b2 b3 : UInt8) (rest : List UInt8) :
    referenceText (b0 :: b1 :: b2 :: b3 :: rest) =
      Frame.write (Word.value [b0, b1, b2, b3]) ++ referenceText rest := by
  have hk : (zeroExtend rest).length / 4 + 1 =
      (zeroExtend (b0 :: b1 :: b2 :: b3 :: rest)).length / 4 := by
    simp only [length_zeroExtend, List.length_cons]
    omega
  rw [referenceText, referenceText, ← hk, List.range_succ_eq_map, List.flatMap_cons,
    List.flatMap_map, zeroExtend_cons, wordAt_cons_zero, Frame.write_eq_digitChars]
  simp only [wordAt_cons_succ, List.length_cons, List.append_assoc,
    show (rest.length + 1 + 1 + 1 + 1) % 4 = rest.length % 4 by omega]

theorem referenceText_of_length_lt {bs : List UInt8} (h0 : 0 < bs.length) (h4 : bs.length < 4) :
    referenceText bs = encodeTail bs := by
  have hz : zeroExtend bs = bs ++ List.replicate (4 - bs.length) 0 := by
    rw [zeroExtend, Nat.mod_eq_of_lt h4, Nat.mod_eq_of_lt (by omega)]
  have hl : (bs ++ List.replicate (4 - bs.length) 0).length = 4 := by
    rw [List.length_append, List.length_replicate]
    omega
  obtain ⟨c0, c1, c2, c3, hc⟩ := List.length_eq_four.mp hl
  rw [referenceText, encodeTail, hz, hl, hc, if_neg (by omega), Nat.mod_eq_of_lt h4]
  have hword := wordAt_cons_zero c0 c1 c2 c3 []
  simp [Frame.write_eq_digitChars, hword, digitByte]

theorem encode_eq_referenceText (src : List UInt8) : encode src = referenceText src := by
  induction src using encode.induct with
  | case1 => rfl
  | case2 b0 => exact (referenceText_of_length_lt (by simp) (by simp)).symm
  | case3 b0 b1 => exact (referenceText_of_length_lt (by simp) (by simp)).symm
  | case4 b0 b1 b2 => exact (referenceText_of_length_lt (by simp) (by simp)).symm
  | case5 b0 b1 b2 b3 rest ih => rw [encode, referenceText_cons, ih]

theorem Rfc32.foldl_push_word (k : Nat) (out : List UInt8) (b0 b1 b2 b3 : UInt8) :
    [b0, b1, b2, b3].foldl Rfc32.push ⟨0, 4 * k, out⟩ =
      ⟨0, 4 * (k + 1), out ++ Frame.write (Word.value [b0, b1, b2, b3])⟩ := by
  have h1 : (4 * k + 1) % 4 ≠ 0 := by omega
  have h2 : (4 * k + 1 + 1) % 4 ≠ 0 := by omega
  have h3 : (4 * k + 1 + 1 + 1) % 4 ≠ 0 := by omega
  have h4 : (4 * k + 1 + 1 + 1 + 1) % 4 = 0 := by omega
  simp only [List.foldl_cons, List.foldl_nil, Rfc32.push, h1, h2, h3, h4, if_false, if_true,
    Rfc32.emit_four, Rfc32.State.mk.injEq, true_and]
  refine ⟨by omega, ?_⟩
  rw [Word.value_four]
  ring_nf

theorem Rfc32.foldl_push {bs : List UInt8} (h : bs.length % 4 = 0) (k : Nat) (out : List UInt8) :
    (bs.foldl Rfc32.push ⟨0, 4 * k, out⟩).out = out ++ Z85.encode bs := by
  induction bs using encode.induct generalizing k out with
  | case1 => simp [Z85.encode]
  | case2 b0 => simp at h
  | case3 b0 b1 => simp at h
  | case4 b0 b1 b2 => simp at h
  | case5 b0 b1 b2 b3 rest ih =>
    have hrest : rest.length % 4 = 0 := by
      simp only [List.length_cons] at h
      omega
    rw [show b0 :: b1 :: b2 :: b3 :: rest = [b0, b1, b2, b3] ++ rest from rfl, List.foldl_append,
      Rfc32.foldl_push_word, ih hrest, List.append_assoc]
    rfl

/-- The text of any bytes is the one the format prescribes: the five digits of each big-endian
word of the zero-extended bytes, then the marker of the zero bytes added. On a whole number of
words it is the text of RFC 32's encoder. -/
theorem encode_eq_reference (src : List UInt8) :
    encode src = referenceText src ∧
      (src.length % 4 = 0 → Rfc32.encode src = some (encode src)) := by
  refine ⟨encode_eq_referenceText src, fun h ↦ ?_⟩
  have hfold := Rfc32.foldl_push h 0 []
  rw [Nat.mul_zero, List.nil_append] at hfold
  rw [Rfc32.encode, if_pos h, hfold]

end Z85
