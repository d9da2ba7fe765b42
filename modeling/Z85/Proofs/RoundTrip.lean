import Z85.Proofs.Reading

namespace Z85

theorem Word.bytes_value {bs : List UInt8} (h : bs.length = 4) :
    Word.bytes (Word.value bs) = bs := by
  have hd := Positional.digits_value 256 (bs.map UInt8.toNat) (by
    simp only [List.mem_map]
    intro _ hb
    obtain ⟨b, -, rfl⟩ := hb
    exact b.toNat_lt)
  rw [List.length_map, h] at hd
  rw [Word.bytes, Word.value, hd, List.map_map]
  conv => rhs; rw [← List.map_id bs]
  exact List.map_congr_left (fun b _ ↦ UInt8.ofNat_toNat)

theorem Word.take_append_replicate {p v : Nat} (hp : p ≤ 4) (h : paddingClear p v = true) :
    (Word.bytes v).take (4 - p) ++ List.replicate p 0 = Word.bytes v := by
  have hz : (Word.bytes v).drop (4 - p) = List.replicate p 0 := by
    rw [List.eq_replicate_iff]
    refine ⟨by simp; omega, fun b hb ↦ ?_⟩
    simpa using List.all_eq_true.mp h b hb
  rw [← hz, List.take_append_drop]

theorem Frame.exists_write_eq (v : Nat) :
    ∃ c0 c1 c2 c3 c4, Frame.write v = [c0, c1, c2, c3, c4] := by
  simp only [Frame.write, Positional.digits, List.nil_append, List.cons_append, List.map_cons,
    List.map_nil]
  exact ⟨_, _, _, _, _, rfl⟩

theorem readFrames_flatMap_write (pos : Nat) {vs : List Nat} (hvs : ∀ v ∈ vs, v < Word.limit)
    {rest : List UInt8} (hrest : rest.length < 5) :
    readFrames pos (vs.flatMap Frame.write ++ rest) = .ok vs := by
  induction vs generalizing pos with
  | nil => exact readFrames_of_length_lt pos hrest
  | cons v vs ih =>
    have hv : v < Word.limit := hvs v (by simp)
    obtain ⟨c0, c1, c2, c3, c4, hw⟩ := Frame.exists_write_eq v
    have hr : Frame.read pos [c0, c1, c2, c3, c4] = .ok v := hw ▸ Frame.read_write pos v hv
    rw [List.flatMap_cons, hw]
    simp only [List.cons_append, List.nil_append]
    rw [readFrames, hr, ih (pos + 5) (fun w hw' ↦ hvs w (by simp [hw']))]
    rfl

theorem encode_append_four {bs : List UInt8} (h : bs.length = 4) (rest : List UInt8) :
    encode (bs ++ rest) = Frame.write (Word.value bs) ++ encode rest := by
  match bs, h with
  | [_, _, _, _], _ => rfl

theorem encode_of_length_lt {bs : List UInt8} (h0 : 0 < bs.length) (h4 : bs.length < 4) :
    encode bs = encodeTail bs := by
  match bs, h0, h4 with
  | [_], _, _ | [_, _], _, _ | [_, _, _], _, _ => rfl

theorem Word.value_lt_limit {bs : List UInt8} (h : bs.length = 4) :
    Word.value bs < Word.limit := by
  have hv := Word.value_lt bs
  rw [h] at hv
  exact hv

theorem encode_take_bytes {v p : Nat} (hv : v < Word.limit) (hp : p < 4)
    (hpad : 0 < p → paddingClear p v = true) :
    encode ((Word.bytes v).take (4 - p)) =
      Frame.write v ++ if p = 0 then [] else [digitByte p] := by
  by_cases h0 : p = 0
  · subst h0
    have h := encode_append_four (Word.length_bytes v) []
    rw [List.append_nil, Word.value_bytes v hv] at h
    rw [Nat.sub_zero, List.take_of_length_le (by simp), h, if_pos rfl]
    rfl
  · have hlen : ((Word.bytes v).take (4 - p)).length = 4 - p := by
      simp only [List.length_take, Word.length_bytes]
      omega
    rw [encode_of_length_lt (by omega) (by omega), encodeTail, hlen,
      show 4 - (4 - p) = p by omega, Word.take_append_replicate (by omega) (hpad (by omega)),
      Word.value_bytes v hv, if_neg h0]

theorem getLastD_cons_of_ne_nil {l : List Nat} (h : l ≠ []) (a d : Nat) :
    (a :: l).getLastD d = l.getLastD d := by
  rw [List.getLastD_cons, List.getLastD_eq_getLast?, List.getLastD_eq_getLast?,
    List.getLast?_eq_some_getLast h]
  rfl

/-- The numbers and padding of a text that writing produces: each number fits 32 bits, and when
the last frame is padded there is one and its padding octets are zero. -/
structure Frames where
  values : List Nat
  padding : Nat
  values_lt : ∀ v ∈ values, v < Word.limit
  padding_lt : padding < 4
  padded : 0 < padding → values ≠ [] ∧ paddingClear padding (values.getLastD 0) = true

namespace Frames

def marker (p : Nat) : List UInt8 :=
  if p = 0 then [] else [digitByte p]

def text (fr : Frames) : List UInt8 :=
  fr.values.flatMap Frame.write ++ marker fr.padding

def bytes (fr : Frames) : List UInt8 :=
  (fr.values.flatMap Word.bytes).take (4 * fr.values.length - fr.padding)

def cons (v : Nat) (hv : v < Word.limit) (fr : Frames) : Frames where
  values := v :: fr.values
  padding := fr.padding
  values_lt := by
    intro w hw
    rcases List.mem_cons.mp hw with rfl | hw
    · exact hv
    · exact fr.values_lt w hw
  padding_lt := fr.padding_lt
  padded := by
    intro hp
    obtain ⟨hne, hclear⟩ := fr.padded hp
    exact ⟨List.cons_ne_nil _ _, by rwa [getLastD_cons_of_ne_nil hne]⟩

theorem length_marker_lt (p : Nat) : (marker p).length < 5 := by
  unfold marker
  split <;> simp

theorem padding_le (fr : Frames) : fr.padding ≤ 4 * fr.values.length := by
  by_cases hp : 0 < fr.padding
  · have hne := (fr.padded hp).1
    have := fr.padding_lt
    have : 0 < fr.values.length := List.length_pos_iff.mpr hne
    omega
  · omega

theorem bytes_cons (v : Nat) (hv : v < Word.limit) (fr : Frames) :
    (cons v hv fr).bytes = Word.bytes v ++ fr.bytes := by
  have hle := fr.padding_le
  simp only [bytes, cons, List.flatMap_cons, List.length_cons]
  rw [List.take_append, Word.length_bytes, List.take_of_length_le (by simp; omega)]
  congr 2
  omega

theorem text_cons (v : Nat) (hv : v < Word.limit) (fr : Frames) :
    (cons v hv fr).text = Frame.write v ++ fr.text := by
  simp only [text, cons, List.flatMap_cons, List.append_assoc]

theorem clear_last (fr : Frames) : paddingClear fr.padding (fr.values.getLastD 0) = true := by
  by_cases hp : 0 < fr.padding
  · exact (fr.padded hp).2
  · rw [show fr.padding = 0 by omega]
    exact paddingClear_zero _

theorem encode_bytes (fr : Frames) : encode fr.bytes = fr.text := by
  obtain ⟨vs, p, hvs, hp, hpad⟩ := fr
  induction vs with
  | nil =>
    have h0 : p = 0 := Nat.eq_zero_of_not_pos (fun h ↦ (hpad h).1 rfl)
    subst h0
    rfl
  | cons v vs ih =>
    have hv : v < Word.limit := hvs v (by simp)
    cases vs with
    | nil =>
      have hclear : 0 < p → paddingClear p v = true := fun h ↦ (hpad h).2
      simp only [bytes, text, List.flatMap_cons, List.flatMap_nil, List.append_nil,
        List.length_cons, List.length_nil]
      rw [show 4 * (0 + 1) - p = 4 - p by omega, encode_take_bytes hv hp hclear]
      rfl
    | cons w ws =>
      let fr : Frames := ⟨w :: ws, p, fun x hx ↦ hvs x (List.mem_cons_of_mem v hx), hp,
        fun h ↦ ⟨List.cons_ne_nil _ _, by
          rw [← getLastD_cons_of_ne_nil (List.cons_ne_nil w ws) v]
          exact (hpad h).2⟩⟩
      have hcons : (⟨v :: w :: ws, p, hvs, hp, hpad⟩ : Frames) = cons v hv fr := rfl
      rw [hcons, bytes_cons, encode_append_four (Word.length_bytes v), Word.value_bytes v hv,
        text_cons, ih]

theorem length_text (fr : Frames) :
    fr.text.length = 5 * fr.values.length + (marker fr.padding).length := by
  simp only [text, List.length_append, List.length_flatMap, Frame.length_write, List.map_const',
    List.sum_replicate_nat]
  omega

theorem admits_text (strict : Bool) (fr : Frames) : Shape.Admits strict fr.text fr.padding := by
  have hlen := fr.length_text
  by_cases h0 : fr.padding = 0
  · have hm : marker fr.padding = [] := by simp [marker, h0]
    rw [hm, List.length_nil, Nat.add_zero] at hlen
    by_cases hvs : fr.values = []
    · left
      exact ⟨by simp [text, hvs, hm], h0⟩
    · right; left
      have := List.length_pos_iff.mpr hvs
      exact ⟨by omega, by omega, h0⟩
  · have hm : marker fr.padding = [digitByte fr.padding] := by simp [marker, h0]
    have hne := (fr.padded (by omega)).1
    have := List.length_pos_iff.mpr hne
    have hp := fr.padding_lt
    rw [hm, List.length_singleton] at hlen
    right; right
    refine ⟨by omega, by omega, by omega, fun _ ↦ by omega, ?_⟩
    rw [Shape.getElem?_alphabet (by omega), text, hm, List.getLast?_append,
      List.getLast?_singleton]
    rfl

theorem ofText_text (strict : Bool) (fr : Frames) :
    Shape.ofText strict fr.text = .ok ⟨fr.values.length, fr.padding, fr.padding_lt⟩ := by
  have hlen := fr.length_text
  have hm := length_marker_lt fr.padding
  rw [Shape.ofText_eq_ok_iff]
  refine ⟨?_, admits_text strict fr⟩
  have : (marker fr.padding).length ≤ 1 := by unfold marker; split <;> simp
  dsimp only
  omega

theorem padding_checked (strict : Bool) (fr : Frames) :
    ¬(strict = true ∧ paddingClear fr.padding (fr.values.getLastD 0) = false) := by
  simp only [fr.clear_last, Bool.true_eq_false, and_false, not_false_eq_true]

theorem read_text (strict : Bool) (fr : Frames) :
    Shape.read ⟨fr.values.length, fr.padding, fr.padding_lt⟩ strict fr.text = .ok fr.bytes := by
  rw [Shape.read, text, readFrames_flatMap_write 0 fr.values_lt (length_marker_lt _)]
  dsimp only
  rw [if_neg (padding_checked strict fr), bytes, Shape.size, Nat.mul_comm]

theorem decode_text (c : Codec) (fr : Frames) : c.decode fr.text = .ok fr.bytes :=
  (Codec.decode_eq_ok_iff_shape c _ _).mpr ⟨_, ofText_text c.strict fr, read_text c.strict fr⟩

theorem validate_text (c : Codec) (fr : Frames) : c.validate fr.text = .ok () := by
  rw [Codec.validate, ofText_text]
  dsimp only
  rw [lastFrame_eq, text, readFrames_flatMap_write 0 fr.values_lt (length_marker_lt _)]
  dsimp only [Except.map]
  rw [if_neg (padding_checked c.strict fr)]

theorem exists_bytes_eq_of_lt {bs : List UInt8} (h0 : 0 < bs.length) (h4 : bs.length < 4) :
    ∃ fr : Frames, fr.bytes = bs := by
  have hlen : (bs ++ List.replicate (4 - bs.length) 0).length = 4 := by
    rw [List.length_append, List.length_replicate]
    omega
  have hv := Word.value_lt_limit hlen
  have hclear : paddingClear (4 - bs.length)
      (Word.value (bs ++ List.replicate (4 - bs.length) 0)) = true := by
    rw [paddingClear, Word.bytes_value hlen, show 4 - (4 - bs.length) = bs.length by omega,
      List.drop_left]
    simp
  refine ⟨⟨[Word.value (bs ++ List.replicate (4 - bs.length) 0)], 4 - bs.length,
    fun v hv' ↦ (List.mem_singleton.mp hv') ▸ hv, by omega,
    fun _ ↦ ⟨List.cons_ne_nil _ _, hclear⟩⟩, ?_⟩
  simp only [bytes, List.flatMap_cons, List.flatMap_nil, List.append_nil, List.length_cons,
    List.length_nil]
  rw [Word.bytes_value hlen, show 4 * (0 + 1) - (4 - bs.length) = bs.length by omega,
    List.take_left]

theorem exists_bytes_eq (bs : List UInt8) : ∃ fr : Frames, fr.bytes = bs := by
  induction bs using encode.induct with
  | case1 => exact ⟨⟨[], 0, by simp, by decide, by simp⟩, rfl⟩
  | case2 | case3 | case4 => exact exists_bytes_eq_of_lt (by simp) (by simp)
  | case5 b0 b1 b2 b3 rest ih =>
    obtain ⟨fr, hfr⟩ := ih
    have hv : Word.value [b0, b1, b2, b3] < Word.limit := Word.value_lt_limit rfl
    refine ⟨cons _ hv fr, ?_⟩
    rw [bytes_cons, Word.bytes_value rfl, hfr]
    rfl

theorem flatten_append_marker {s : List UInt8} {p : Nat} (h : Shape.Admits true s p) :
    (framesOf s).flatten ++ marker p = s := by
  rw [flatten_framesOf]
  rcases h with ⟨rfl, rfl⟩ | ⟨-, h5, rfl⟩ | ⟨h6, h5, hp, hs, hlast⟩
  · rfl
  · rw [show 5 * (s.length / 5) = s.length by omega, List.take_length]
    simp [marker]
  · have hp0 : p ≠ 0 := by have := hs rfl; omega
    have hm : marker p = [digitByte p] := by simp [marker, hp0]
    have hs' := List.take_append_getLast? s
    rw [hlast, Shape.getElem?_alphabet (by omega),
      show s.length - 1 = 5 * (s.length / 5) by omega] at hs'
    rw [hm]
    exact hs'

theorem exists_text_of_decode {c : Codec} (hc : c.strict = true) {s b : List UInt8}
    (h : c.decode s = .ok b) : ∃ fr : Frames, fr.text = s ∧ fr.bytes = b := by
  obtain ⟨sh, hsh, hread⟩ := (Codec.decode_eq_ok_iff_shape c s b).mp h
  obtain ⟨hk, hadm⟩ := (Shape.ofText_eq_ok_iff _ _ _).mp hsh
  obtain ⟨hok, hpad, rfl⟩ := (Shape.read_eq_ok_iff _ _ _ _).mp hread
  rw [hc] at hadm hpad
  have hne : 0 < sh.padding → (framesOf s).map number ≠ [] := by
    intro hp
    have h6 : 6 ≤ s.length := hadm.length_of_padding hp
    have : 0 < ((framesOf s).map number).length := by simp; omega
    exact List.length_pos_iff.mp this
  let fr : Frames := {
    values := (framesOf s).map number
    padding := sh.padding
    values_lt := by
      intro v hv
      obtain ⟨cs, hcs, rfl⟩ := List.mem_map.mp hv
      exact (hok cs hcs).2
    padding_lt := sh.padding_lt
    padded := fun hp ↦ ⟨hne hp, by rw [getLastD_map_number]; exact hpad rfl⟩ }
  refine ⟨fr, ?_, ?_⟩
  · have hw : ((framesOf s).map number).flatMap Frame.write = (framesOf s).flatten := by
      rw [List.flatMap_map, List.flatMap_def]
      congr 1
      conv => rhs; rw [← List.map_id (framesOf s)]
      exact List.map_congr_left
        (fun cs hcs ↦ Frame.write_number (frame_length hcs) (hok cs hcs).1)
    simp only [text, fr, hw]
    exact flatten_append_marker hadm
  · simp only [bytes, fr, Shape.size, hk, List.length_map, length_framesOf, List.flatMap_map,
      wordBytes_eq_bytes, Nat.mul_comm]

end Frames

theorem Shape.length_read {strict : Bool} {s b : List UInt8} {sh : Shape}
    (hsh : Shape.ofText strict s = .ok sh) (h : sh.read strict s = .ok b) :
    b.length = sh.size := by
  obtain ⟨hk, hadm⟩ := (Shape.ofText_eq_ok_iff _ _ _).mp hsh
  obtain ⟨-, -, rfl⟩ := (Shape.read_eq_ok_iff _ _ _ _).mp h
  rw [Shape.size, hk, Nat.mul_comm]
  exact length_reference hadm.padding_le

theorem Codec.decodeInto_written {c : Codec} {dst s : List UInt8} {n : Nat}
    (h : (c.decodeInto dst s).written = .ok n) :
    ∃ b, c.decode s = .ok b ∧ (c.decodeInto dst s).buffer.take n = b := by
  cases hsh : Shape.ofText c.strict s with
  | error e =>
    rw [Codec.decodeInto_of_ofText_error hsh] at h
    cases h
  | ok sh =>
    by_cases hlt : dst.length < sh.size
    · rw [Codec.decodeInto_of_lt hsh hlt] at h
      cases h
    have hle : sh.size ≤ dst.length := Nat.le_of_not_lt hlt
    cases hr : sh.read c.strict s with
    | error e =>
      rw [Codec.decodeInto_of_read_error hsh hle hr] at h
      cases h
    | ok bs =>
      rw [Codec.decodeInto_of_read_ok hsh hle hr] at h ⊢
      cases h
      refine ⟨bs, (Codec.decode_eq_ok_iff_shape c s bs).mpr ⟨sh, hsh, hr⟩, ?_⟩
      dsimp only
      rw [← Shape.length_read hsh hr, List.take_left]

theorem Codec.decode_encode_self (c : Codec) (bs : List UInt8) : c.decode (encode bs) = .ok bs := by
  obtain ⟨fr, rfl⟩ := Frames.exists_bytes_eq bs
  rw [fr.encode_bytes]
  exact fr.decode_text c

/-- Reading the text of any bytes gives them back, leniently or canonically, and checking the
text finds no failure. -/
theorem decode_encode (c : Codec) (bs : List UInt8) :
    c.decode (encode bs) = .ok bs ∧ c.validate (encode bs) = .ok () := by
  obtain ⟨fr, rfl⟩ := Frames.exists_bytes_eq bs
  rw [fr.encode_bytes]
  exact ⟨fr.decode_text c, fr.validate_text c⟩

/-- A canonical codec accepts only written texts: whatever it reads, into new bytes or into a
buffer, is written back as the text it read. -/
theorem encode_eq_of_decode {c : Codec} (hc : c.strict = true) (s : List UInt8) :
    (∀ b, c.decode s = .ok b → encode b = s) ∧
      ∀ dst n, (c.decodeInto dst s).written = .ok n →
        encode ((c.decodeInto dst s).buffer.take n) = s := by
  have hdecode : ∀ b, c.decode s = .ok b → encode b = s := by
    intro b h
    obtain ⟨fr, rfl, rfl⟩ := Frames.exists_text_of_decode hc h
    exact fr.encode_bytes
  refine ⟨hdecode, fun dst n h ↦ ?_⟩
  obtain ⟨b, hb, hbuf⟩ := Codec.decodeInto_written h
  rw [hbuf]
  exact hdecode b hb

theorem encode_eq_of_decode_adfeg1 :
    Codec.canonical.strict = true ∧
      ((∀ b, Codec.canonical.decode [0x61, 0x64, 0x66, 0x65, 0x67, 0x31] = .ok b →
          encode b = [0x61, 0x64, 0x66, 0x65, 0x67, 0x31]) ∧
        ∀ dst n,
          (Codec.canonical.decodeInto dst [0x61, 0x64, 0x66, 0x65, 0x67, 0x31]).written = .ok n →
          encode ((Codec.canonical.decodeInto dst
              [0x61, 0x64, 0x66, 0x65, 0x67, 0x31]).buffer.take n) =
            [0x61, 0x64, 0x66, 0x65, 0x67, 0x31]) :=
  ⟨rfl, encode_eq_of_decode rfl _⟩

end Z85
