import Z85.Proofs.Rejection

namespace Z85

/-- A padded text whose marker is `0`, which writing never produces. -/
def ZeroMarked (s : List UInt8) : Prop :=
  6 ≤ s.length ∧ s.length % 5 = 1 ∧ s.getLast? = alphabet[0]?

instance (s : List UInt8) : Decidable (ZeroMarked s) :=
  inferInstanceAs (Decidable (_ ∧ _ ∧ _))

theorem digitByte_inj {p q : Nat} (hp : p < 85) (hq : q < 85) (h : digitByte p = digitByte q) :
    p = q := by
  have hv := digitValue?_digitByte p hp
  rw [h, digitValue?_digitByte q hq] at hv
  exact (Option.some.inj hv).symm

theorem getElem?_alphabet_inj {p q : Nat} (hp : p < 85) (hq : q < 85)
    (h : alphabet[p]? = alphabet[q]?) : p = q := by
  rw [Shape.getElem?_alphabet hp, Shape.getElem?_alphabet hq] at h
  exact digitByte_inj hp hq (Option.some.inj h)

theorem zeroMarked_iff {s : List UInt8} (h5 : 5 ≤ s.length) (h1 : s.length % 5 = 1) :
    ZeroMarked s ↔ s.getLastD 0 = digitByte 0 := by
  have hne : s ≠ [] := List.ne_nil_of_length_pos (by omega)
  rw [ZeroMarked, Shape.getLast?_eq_getLastD hne 0, Shape.getElem?_alphabet (by decide),
    Option.some.injEq]
  exact ⟨fun h ↦ h.2.2, fun h ↦ ⟨by omega, h1, h⟩⟩

namespace Shape

theorem ofMarker_canonical (n : Nat) (b : UInt8) :
    ofMarker true n b = if b = digitByte 0 then .error .zeroMarker else ofMarker false n b := by
  unfold ofMarker
  cases hb : digitValue? b with
  | none =>
    have hne : b ≠ digitByte 0 := by
      rintro rfl
      rw [digitValue?_digitByte 0 (by decide)] at hb
      cases hb
    simp [hne]
  | some m =>
    by_cases hm : m = 0
    · subst hm
      have hz : b = digitByte 0 := (digitValue?_eq_some_iff (by decide)).mp hb
      simp [hz]
    · have hne : b ≠ digitByte 0 := by
        rintro rfl
        rw [digitValue?_digitByte 0 (by decide)] at hb
        exact hm (Option.some.inj hb).symm
      simp [hne, hm]

theorem ofText_of_not_padded {s : List UInt8} (h : ¬(5 ≤ s.length ∧ s.length % 5 = 1))
    (strict strict' : Bool) : ofText strict s = ofText strict' s := by
  unfold ofText
  by_cases h0 : s.length = 0
  · rw [if_pos h0, if_pos h0]
  rw [if_neg h0, if_neg h0]
  by_cases h5 : s.length < 5
  · rw [if_pos h5, if_pos h5]
  rw [if_neg h5, if_neg h5]
  by_cases hm0 : s.length % 5 = 0
  · rw [if_pos hm0, if_pos hm0]
  rw [if_neg hm0, if_neg hm0, if_neg (by omega), if_neg (by omega)]

theorem ofText_canonical (s : List UInt8) :
    ofText true s = if ZeroMarked s then .error .zeroMarker else ofText false s := by
  by_cases hp : 5 ≤ s.length ∧ s.length % 5 = 1
  · obtain ⟨h5, h1⟩ := hp
    rw [ofText_of_mod_one h1 h5, ofText_of_mod_one h1 h5, ofMarker_canonical,
      if_congr (zeroMarked_iff h5 h1).symm rfl rfl]
  · have hz : ¬ZeroMarked s := fun hz ↦ hp ⟨Nat.le_of_succ_le hz.1, hz.2.1⟩
    rw [if_neg hz, ofText_of_not_padded hp]

theorem read_canonical (sh : Shape) (s : List UInt8) :
    sh.read true s = (sh.read false s).bind fun b ↦
      if paddingClear sh.padding (number ((framesOf s).getLastD [])) then .ok b
      else .error .nonZeroPadding := by
  unfold read
  cases hr : readFrames 0 s with
  | error e => rfl
  | ok vs =>
    obtain ⟨-, rfl⟩ := (readFrames_eq_ok_iff 0 s vs).mp hr
    dsimp only
    rw [getLastD_map_number]
    have hlenient :
        ¬(false = true ∧ paddingClear sh.padding (number ((framesOf s).getLastD [])) = false) :=
      fun h ↦ Bool.false_ne_true h.1
    rw [if_neg hlenient]
    by_cases hc : paddingClear sh.padding (number ((framesOf s).getLastD [])) = true
    · have hstrict :
          ¬(true = true ∧ paddingClear sh.padding (number ((framesOf s).getLastD [])) = false) :=
        fun h ↦ by rw [hc] at h; exact Bool.noConfusion h.2
      rw [if_neg hstrict]
      exact (if_pos hc).symm
    · rw [if_pos ⟨rfl, Bool.eq_false_iff.mpr hc⟩]
      exact (if_neg hc).symm

end Shape

theorem Codec.decode_canonical (s : List UInt8) :
    Codec.canonical.decode s =
      if ZeroMarked s then .error .zeroMarker
      else match Shape.ofText false s with
        | .error e => .error e
        | .ok sh => (sh.read false s).bind fun b ↦
          if paddingClear sh.padding (number ((framesOf s).getLastD [])) then .ok b
          else .error .nonZeroPadding := by
  unfold Codec.decode
  rw [Codec.canonical_strict, Shape.ofText_canonical]
  by_cases hz : ZeroMarked s
  · rw [if_pos hz, if_pos hz]
  · rw [if_neg hz, if_neg hz]
    cases Shape.ofText false s with
    | error e => rfl
    | ok sh => exact Shape.read_canonical sh s

theorem Codec.decode_canonical_of_lenient {s b : List UInt8} {sh : Shape}
    (hsh : Shape.ofText false s = .ok sh) (hb : sh.read false s = .ok b) :
    Codec.canonical.decode s =
      if ZeroMarked s then .error .zeroMarker
      else if paddingClear sh.padding (number ((framesOf s).getLastD [])) then .ok b
      else .error .nonZeroPadding := by
  rw [Codec.decode_canonical, hsh]
  dsimp only
  rw [hb]
  rfl

theorem Codec.decode_canonical_of_lenient_error {s : List UInt8} {e : Error}
    (h : Codec.lenient.decode s = .error e) :
    Codec.canonical.decode s = if ZeroMarked s then .error .zeroMarker else .error e := by
  rw [Codec.decode_canonical]
  by_cases hz : ZeroMarked s
  · rw [if_pos hz, if_pos hz]
  rw [if_neg hz, if_neg hz]
  unfold Codec.decode at h
  rw [Codec.lenient_strict] at h
  cases hsh : Shape.ofText false s with
  | error e' =>
    rw [hsh] at h
    exact h
  | ok sh =>
    rw [hsh] at h
    dsimp only at h ⊢
    rw [h]
    rfl

theorem canonical_checks_iff {s : List UInt8} {p : Nat} (hadm : Shape.Admits false s p) :
    (ZeroMarked s ∨ paddingClear p (number ((framesOf s).getLastD [])) = false) ↔
      6 ≤ s.length ∧ s.length % 5 = 1 ∧
        (s.getLast? = alphabet[0]? ∨
          ∃ q, 1 ≤ q ∧ q ≤ 3 ∧ s.getLast? = alphabet[q]? ∧
            number ((framesOf s).getLastD []) % Nat.pow 2 (8 * q) ≠ 0) := by
  constructor
  · rintro (⟨h6, h1, h0⟩ | hc)
    · exact ⟨h6, h1, .inl h0⟩
    · have hp0 : p ≠ 0 := by
        rintro rfl
        rw [paddingClear_zero] at hc
        cases hc
      rcases hadm with ⟨-, rfl⟩ | ⟨-, -, rfl⟩ | ⟨h6, h1, hp3, -, hlast⟩
      · exact absurd rfl hp0
      · exact absurd rfl hp0
      · refine ⟨h6, h1, .inr ⟨p, by omega, hp3, hlast, fun hz ↦ ?_⟩⟩
        rw [(paddingClear_iff _ (by omega)).mpr hz] at hc
        cases hc
  · rintro ⟨h6, h1, h0 | ⟨q, hq1, hq3, hlast, hnz⟩⟩
    · exact .inl ⟨h6, h1, h0⟩
    · right
      have hpq : p = q := by
        rcases hadm with ⟨rfl, -⟩ | ⟨-, h0, -⟩ | ⟨-, -, hp3, -, hp⟩
        · simp at h6
        · omega
        · exact getElem?_alphabet_inj (by omega) (by omega) (hp.symm.trans hlast)
      subst hpq
      exact Bool.eq_false_iff.mpr fun hc ↦ hnz ((paddingClear_iff _ (by omega)).mp hc)

theorem Codec.decode_lenient_of_canonical {s b : List UInt8}
    (h : Codec.canonical.decode s = .ok b) : Codec.lenient.decode s = .ok b := by
  cases hl : Codec.lenient.decode s with
  | error e =>
    rw [Codec.decode_canonical_of_lenient_error hl] at h
    by_cases hz : ZeroMarked s
    · rw [if_pos hz] at h
      cases h
    · rw [if_neg hz] at h
      cases h
  | ok b' =>
    obtain ⟨sh, hsh, hr⟩ := (Codec.decode_eq_ok_iff_shape _ s b').mp hl
    rw [Codec.decode_canonical_of_lenient hsh hr] at h
    by_cases hz : ZeroMarked s
    · rw [if_pos hz] at h
      cases h
    rw [if_neg hz] at h
    by_cases hc : paddingClear sh.padding (number ((framesOf s).getLastD [])) = true
    · rw [if_pos hc] at h
      rw [h]
    · rw [if_neg hc] at h
      cases h

theorem Codec.canonical_refuses_iff {s b : List UInt8} {sh : Shape}
    (hsh : Shape.ofText false s = .ok sh) (hb : sh.read false s = .ok b) :
    ((∃ e, Codec.canonical.decode s = .error e) ↔
      ZeroMarked s ∨ paddingClear sh.padding (number ((framesOf s).getLastD [])) = false) ∧
      ∀ e, Codec.canonical.decode s = .error e → e.kind = .nonCanonical := by
  rw [Codec.decode_canonical_of_lenient hsh hb]
  by_cases hz : ZeroMarked s
  · rw [if_pos hz]
    refine ⟨⟨fun _ ↦ .inl hz, fun _ ↦ ⟨_, rfl⟩⟩, ?_⟩
    rintro e ⟨⟩
    rfl
  rw [if_neg hz]
  by_cases hc : paddingClear sh.padding (number ((framesOf s).getLastD [])) = true
  · rw [if_pos hc]
    have hchecks :
        ¬(ZeroMarked s ∨ paddingClear sh.padding (number ((framesOf s).getLastD [])) = false) := by
      rintro (h | h)
      · exact hz h
      · rw [hc] at h
        cases h
    refine ⟨⟨fun h ↦ ?_, fun h ↦ absurd h hchecks⟩, fun e he ↦ ?_⟩
    · obtain ⟨e, he⟩ := h
      cases he
    · cases he
  · rw [if_neg hc]
    refine ⟨⟨fun _ ↦ .inr (Bool.eq_false_iff.mpr hc), fun _ ↦ ⟨_, rfl⟩⟩, ?_⟩
    rintro e ⟨⟩
    rfl

/-- What a canonical codec reads, a lenient codec reads to the same bytes. Of the texts that a
lenient codec reads, a canonical one refuses exactly the padded texts with the marker `0` or with
padding bits set in the last frame, and only as non-canonical. A text that a lenient codec
refuses, a canonical one refuses with the same message, unless its marker is `0`. -/
theorem canonical_refines_lenient (s : List UInt8) :
    (∀ b, Codec.canonical.decode s = .ok b → Codec.lenient.decode s = .ok b) ∧
    (∀ b, Codec.lenient.decode s = .ok b →
      ((∃ e, Codec.canonical.decode s = .error e) ↔
        6 ≤ s.length ∧ s.length % 5 = 1 ∧
          (s.getLast? = alphabet[0]? ∨
            ∃ p, 1 ≤ p ∧ p ≤ 3 ∧ s.getLast? = alphabet[p]? ∧
              number ((framesOf s).getLastD []) % Nat.pow 2 (8 * p) ≠ 0)) ∧
      ∀ e, Codec.canonical.decode s = .error e → e.kind = .nonCanonical) ∧
    ∀ e, Codec.lenient.decode s = .error e →
      ∃ e', Codec.canonical.decode s = .error e' ∧
        if ZeroMarked s then e'.message = "z85: non-canonical encoding: zero padding marker"
        else e'.message = e.message := by
  refine ⟨fun b h ↦ Codec.decode_lenient_of_canonical h, fun b hb ↦ ?_, fun e he ↦ ?_⟩
  · obtain ⟨sh, hsh, hr⟩ := (Codec.decode_eq_ok_iff_shape _ s b).mp hb
    have hadm := ((Shape.ofText_eq_ok_iff false s sh).mp hsh).2
    rw [← canonical_checks_iff hadm]
    exact Codec.canonical_refuses_iff hsh hr
  · rw [Codec.decode_canonical_of_lenient_error he]
    by_cases hz : ZeroMarked s
    · refine ⟨.zeroMarker, if_pos hz, ?_⟩
      rw [if_pos hz]
      rfl
    · exact ⟨e, if_neg hz, by rw [if_neg hz]⟩

theorem Codec.validate_eq_map_decode (c : Codec) (s : List UInt8) :
    c.validate s = (c.decode s).map fun _ ↦ () := by
  unfold Codec.validate Codec.decode
  cases Shape.ofText c.strict s with
  | error e => rfl
  | ok sh =>
    dsimp only
    rw [lastFrame_eq]
    unfold Shape.read
    cases readFrames 0 s with
    | error e => rfl
    | ok vs =>
      by_cases hc : c.strict = true ∧ paddingClear sh.padding (vs.getLastD 0) = false
      · simp only [Except.map, if_pos hc]
      · simp only [Except.map, if_neg hc]

/-- Validation succeeds exactly when reading does, and otherwise fails with the same failure,
so with the same message and the same kind. -/
theorem validate_agrees_with_decode (c : Codec) (s : List UInt8) :
    (c.validate s = .ok () ↔ ∃ b, c.decode s = .ok b) ∧
      ∀ e, c.validate s = .error e ↔ c.decode s = .error e := by
  rw [Codec.validate_eq_map_decode]
  cases c.decode s with
  | ok b => simp [Except.map]
  | error e => simp [Except.map]

end Z85
