import Z85.Proofs.RoundTrip

namespace Z85

theorem encode_append {a : List UInt8} (h : a.length % 4 = 0) (b : List UInt8) :
    encode (a ++ b) = encode a ++ encode b := by
  induction a using encode.induct with
  | case1 => rfl
  | case2 | case3 | case4 => simp at h
  | case5 b0 b1 b2 b3 rest ih =>
    have hr : rest.length % 4 = 0 := by
      simp only [List.length_cons] at h
      omega
    simp only [List.cons_append, encode, ih hr, List.append_assoc]

theorem framesOf_append {s : List UInt8} (h : s.length % 5 = 0) (t : List UInt8) :
    framesOf (s ++ t) = framesOf s ++ framesOf t := by
  induction s using frames_induction with
  | short u hu =>
    obtain rfl : u = [] := List.eq_nil_of_length_eq_zero (by omega)
    simp [framesOf_of_length_lt]
  | cons c0 c1 c2 c3 c4 rest ih =>
    have hr : rest.length % 5 = 0 := by
      simp only [List.length_cons] at h
      omega
    simp only [List.cons_append, framesOf_cons, ih hr]

theorem length_flatMap_wordBytes (frames : List (List UInt8)) :
    (frames.flatMap fun cs ↦ wordBytes (number cs)).length = 4 * frames.length := by
  simp only [List.length_flatMap, length_wordBytes, List.map_const', List.sum_replicate_nat,
    Nat.mul_comm]

namespace Shape

theorem Admits.append_left {strict : Bool} {s t : List UInt8} {p : Nat} (h5 : 5 ≤ s.length)
    (h0 : s.length % 5 = 0) (h : Admits strict t p) : Admits strict (s ++ t) p := by
  have hlen : (s ++ t).length = s.length + t.length := List.length_append
  rcases h with ⟨rfl, rfl⟩ | ⟨-, ht, rfl⟩ | ⟨h6, h1, hp, hs, hlast⟩
  · right; left
    rw [List.append_nil]
    exact ⟨h5, h0, rfl⟩
  · right; left
    exact ⟨by omega, by omega, rfl⟩
  · have hne : t ≠ [] := List.ne_nil_of_length_pos (by omega)
    right; right
    refine ⟨by omega, by omega, hp, hs, ?_⟩
    rw [List.getLast?_append, List.getLast?_eq_some_getLast hne, Option.some_or,
      ← List.getLast?_eq_some_getLast hne, hlast]

theorem Admits.padding_eq_zero {strict : Bool} {s : List UInt8} {p : Nat}
    (h : Admits strict s p) (h0 : s.length % 5 = 0) : p = 0 := by
  rcases h with ⟨-, rfl⟩ | ⟨-, -, rfl⟩ | ⟨-, h1, -⟩
  · rfl
  · rfl
  · omega

theorem ofText_append {strict : Bool} {s t : List UInt8} {sh : Shape} (h5 : 5 ≤ s.length)
    (h0 : s.length % 5 = 0) (ht : ofText strict t = .ok sh) :
    ofText strict (s ++ t) = .ok ⟨s.length / 5 + sh.frames, sh.padding, sh.padding_lt⟩ := by
  obtain ⟨hk, hadm⟩ := (ofText_eq_ok_iff strict t sh).mp ht
  refine (ofText_eq_ok_iff _ _ _).mpr ⟨?_, hadm.append_left h5 h0⟩
  dsimp only
  rw [List.length_append, hk]
  omega

end Shape

theorem getLastD_framesOf_append {s t : List UInt8} (h0 : s.length % 5 = 0)
    (hne : framesOf t ≠ []) : (framesOf (s ++ t)).getLastD [] = (framesOf t).getLastD [] := by
  rw [framesOf_append h0, List.getLastD_eq_getLast?, List.getLast?_append,
    List.getLast?_eq_some_getLast hne, Option.some_or, ← List.getLast?_eq_some_getLast hne,
    ← List.getLastD_eq_getLast?]

theorem Codec.decode_append (c : Codec) {s t bs bt : List UInt8} (h0 : s.length % 5 = 0)
    (hs : c.decode s = .ok bs) (ht : c.decode t = .ok bt) :
    c.decode (s ++ t) = .ok (bs ++ bt) := by
  obtain ⟨shs, hshs, hrs⟩ := (Codec.decode_eq_ok_iff_shape c s bs).mp hs
  obtain ⟨sht, hsht, hrt⟩ := (Codec.decode_eq_ok_iff_shape c t bt).mp ht
  obtain ⟨hks, hadms⟩ := (Shape.ofText_eq_ok_iff _ _ _).mp hshs
  obtain ⟨hkt, hadmt⟩ := (Shape.ofText_eq_ok_iff _ _ _).mp hsht
  obtain ⟨hoks, -, rfl⟩ := (Shape.read_eq_ok_iff _ _ _ _).mp hrs
  obtain ⟨hokt, hpadt, rfl⟩ := (Shape.read_eq_ok_iff _ _ _ _).mp hrt
  rcases hadms.length_eq_zero_or with hnil | h5
  · obtain rfl : s = [] := List.eq_nil_of_length_eq_zero hnil
    simpa [framesOf_of_length_lt] using ht
  have hps : shs.padding = 0 := hadms.padding_eq_zero h0
  refine (Codec.decode_eq_ok_iff_shape c _ _).mpr ⟨_, Shape.ofText_append h5 h0 hsht,
    (Shape.read_eq_ok_iff _ _ _ _).mpr ⟨fun cs hcs ↦ ?_, fun hstrict ↦ ?_, ?_⟩⟩
  · rw [framesOf_append h0] at hcs
    rcases List.mem_append.mp hcs with hcs | hcs
    · exact hoks cs hcs
    · exact hokt cs hcs
  · dsimp only
    by_cases hp0 : sht.padding = 0
    · rw [hp0]
      exact paddingClear_zero _
    have hne : framesOf t ≠ [] := by
      rw [← List.length_pos_iff, length_framesOf]
      have := hadmt.length_of_padding (by omega)
      omega
    rw [getLastD_framesOf_append h0 hne]
    exact hpadt hstrict
  · have hlens : ((framesOf s).flatMap fun cs ↦ wordBytes (number cs)).length = shs.size := by
      rw [length_flatMap_wordBytes, length_framesOf, Shape.size, hks, hps]
      omega
    have hsize : (⟨s.length / 5 + sht.frames, sht.padding, sht.padding_lt⟩ : Shape).size =
        shs.size + sht.size := by
      have hpt := hadmt.padding_le
      simp only [Shape.size, hks, hkt, hps]
      omega
    rw [framesOf_append h0, List.flatMap_append, List.take_append, hsize, hlens,
      Nat.add_sub_cancel_left, List.take_of_length_le hlens.le,
      List.take_of_length_le (hlens.le.trans (Nat.le_add_right _ _))]

/-- Writing and reading both respect concatenation at a frame boundary: bytes whose length is a
multiple of four write as their text followed by the text of what follows them, and a text of
whole frames followed by another text reads, leniently or canonically, as the bytes of the two
one after the other. -/
theorem concat_homomorphism :
    (∀ a b : List UInt8, a.length % 4 = 0 → encode (a ++ b) = encode a ++ encode b) ∧
      ∀ (c : Codec) (s t bs bt : List UInt8), s.length % 5 = 0 →
        c.decode s = .ok bs → c.decode t = .ok bt → c.decode (s ++ t) = .ok (bs ++ bt) :=
  ⟨fun _ b h ↦ encode_append h b, fun c _ _ _ _ h0 hs ht ↦ Codec.decode_append c h0 hs ht⟩

end Z85
