import Z85.Proofs.Reference

namespace Z85

namespace Shape

/-- The lengths and last characters that reading accepts, with the padding `p` they declare:
the empty text, whole frames, or whole frames followed by the marker of `p`. A canonical
reading refuses the marker `0`. -/
def Admits (strict : Bool) (s : List UInt8) (p : Nat) : Prop :=
  s = [] ∧ p = 0 ∨ 5 ≤ s.length ∧ s.length % 5 = 0 ∧ p = 0 ∨
    6 ≤ s.length ∧ s.length % 5 = 1 ∧ p ≤ 3 ∧ (strict = true → 1 ≤ p) ∧
      s.getLast? = alphabet[p]?

instance (strict : Bool) (s : List UInt8) (p : Nat) : Decidable (Admits strict s p) :=
  inferInstanceAs (Decidable (_ ∨ _ ∨ _))

theorem eq_iff {sh sh' : Shape} :
    sh = sh' ↔ sh.frames = sh'.frames ∧ sh.padding = sh'.padding := by
  cases sh
  cases sh'
  simp

theorem getElem?_alphabet {p : Nat} (h : p < 85) : alphabet[p]? = some (digitByte p) := by
  rw [digitByte, List.getD_eq_getElem?_getD, List.getElem?_eq_getElem (length_alphabet ▸ h)]
  rfl

theorem digitValue?_eq_some_iff {b : UInt8} {p : Nat} (h : p < 85) :
    digitValue? b = some p ↔ b = digitByte p :=
  ⟨fun hb ↦ (digitByte_of_digitValue? hb).2.symm, fun hb ↦ hb ▸ digitValue?_digitByte p h⟩

theorem ofMarker_eq_ok_iff (strict : Bool) (n : Nat) (b : UInt8) (sh : Shape) :
    ofMarker strict n b = .ok sh ↔
      sh.frames = n / 5 ∧ digitValue? b = some sh.padding ∧
        ¬(sh.padding = 0 ∧ strict = true) := by
  have hp := sh.padding_lt
  rw [ofMarker]
  cases hb : digitValue? b with
  | none => simp
  | some m =>
    dsimp only
    by_cases hm : m < 4
    · rw [dif_pos hm]
      by_cases hz : m = 0 ∧ strict = true
      · rw [if_pos hz]
        simp only [reduceCtorEq, Option.some.injEq, false_iff, not_and]
        rintro - rfl
        simpa using hz
      · rw [if_neg hz, Except.ok.injEq, eq_iff, Option.some.injEq]
        dsimp only
        constructor
        · rintro ⟨h1, rfl⟩
          exact ⟨h1.symm, rfl, hz⟩
        · rintro ⟨h1, h2, -⟩
          exact ⟨h1.symm, h2⟩
    · rw [dif_neg hm]
      simp only [reduceCtorEq, Option.some.injEq, false_iff, not_and]
      intro _ h
      omega

theorem getLast?_eq_getLastD {s : List UInt8} (h : s ≠ []) (d : UInt8) :
    s.getLast? = some (s.getLastD d) := by
  rw [List.getLastD_eq_getLast?]
  cases hl : s.getLast? with
  | none => exact absurd (List.getLast?_eq_none_iff.mp hl) h
  | some x => rfl

theorem ofText_eq_ok_iff (strict : Bool) (s : List UInt8) (sh : Shape) :
    ofText strict s = .ok sh ↔ sh.frames = s.length / 5 ∧ Admits strict s sh.padding := by
  have hp := sh.padding_lt
  unfold ofText Admits
  by_cases h0 : s.length = 0
  · have hs : s = [] := List.eq_nil_of_length_eq_zero h0
    subst hs
    simp [eq_iff, eq_comm]
  · have hne : s ≠ [] := fun h ↦ h0 (by simp [h])
    rw [if_neg h0]
    by_cases h5 : s.length < 5
    · rw [if_pos h5]
      simp only [reduceCtorEq, hne, false_and, false_or, false_iff, not_and]
      omega
    · rw [if_neg h5]
      by_cases hm0 : s.length % 5 = 0
      · rw [if_pos hm0, Except.ok.injEq, eq_iff]
        simp only [hne, false_and, false_or]
        omega
      · rw [if_neg hm0]
        by_cases hm1 : s.length % 5 = 1
        · rw [if_pos hm1, ofMarker_eq_ok_iff, getLast?_eq_getLastD hne 0,
            getElem?_alphabet (by omega), Option.some.injEq,
            ← digitValue?_eq_some_iff (by omega)]
          simp only [hne, hm1, Nat.one_ne_zero, false_and, and_false, false_or, true_and]
          constructor
          · rintro ⟨h1, h2, h3⟩
            refine ⟨h1, by omega, by omega, fun hs ↦ ?_, h2⟩
            simp only [hs, and_true] at h3
            omega
          · rintro ⟨h1, -, -, hs, hd⟩
            refine ⟨h1, hd, fun hzs ↦ ?_⟩
            have := hs hzs.2
            omega
        · rw [if_neg hm1]
          simp only [reduceCtorEq, hne, false_and, false_or, false_iff, not_and]
          omega

end Shape

/-- The texts that reading accepts, with the padding `p` they declare: an admitted length and
marker, characters of the alphabet up to the marker, frames that write numbers below 2 ^ 32,
and, for a canonical reading, a last frame whose padding bits are zero. -/
structure Grammar (strict : Bool) (s : List UInt8) (p : Nat) : Prop where
  shape : Shape.Admits strict s p
  alphabetic : ∀ c ∈ s.take (5 * (s.length / 5)), c ∈ alphabet
  inRange : ∀ cs ∈ framesOf s, number cs < Nat.pow 2 32
  canonical : strict = true → 0 < p → number ((framesOf s).getLastD []) % Nat.pow 2 (8 * p) = 0

instance (strict : Bool) (s : List UInt8) (p : Nat) : Decidable (Grammar strict s p) :=
  decidable_of_iff (_ ∧ _ ∧ _ ∧ _)
    ⟨fun h ↦ ⟨h.1, h.2.1, h.2.2.1, h.2.2.2⟩,
      fun h ↦ ⟨h.shape, h.alphabetic, h.inRange, h.canonical⟩⟩

/-- The bytes of a text: the words of its frames, most significant byte first, less the last
`p` bytes. -/
def reference (s : List UInt8) (p : Nat) : List UInt8 :=
  ((framesOf s).flatMap (fun cs ↦ wordBytes (number cs))).take (4 * (s.length / 5) - p)

theorem Shape.Admits.padding_lt {strict : Bool} {s : List UInt8} {p : Nat}
    (h : Shape.Admits strict s p) : p < 4 := by
  rcases h with ⟨-, rfl⟩ | ⟨-, -, rfl⟩ | ⟨-, -, hp, -⟩ <;> omega

theorem Shape.Admits.padding_le {strict : Bool} {s : List UInt8} {p : Nat}
    (h : Shape.Admits strict s p) : p ≤ 4 * (s.length / 5) := by
  rcases h with ⟨-, rfl⟩ | ⟨-, -, rfl⟩ | ⟨h6, -, hp, -⟩ <;> omega

theorem Shape.Admits.length_of_padding {strict : Bool} {s : List UInt8} {p : Nat}
    (h : Shape.Admits strict s p) (hp : 0 < p) : 6 ≤ s.length := by
  rcases h with ⟨-, rfl⟩ | ⟨-, -, rfl⟩ | ⟨h6, -⟩ <;> omega

theorem Shape.Admits.length_eq_zero_or {strict : Bool} {s : List UInt8} {p : Nat}
    (h : Shape.Admits strict s p) : s.length = 0 ∨ 5 ≤ s.length := by
  rcases h with ⟨rfl, -⟩ | ⟨h5, -⟩ | ⟨h6, -⟩
  · exact .inl rfl
  · exact .inr h5
  · exact .inr (by omega)

theorem length_reference {s : List UInt8} {p : Nat} (h : p ≤ 4 * (s.length / 5)) :
    (reference s p).length = 4 * (s.length / 5) - p := by
  simp only [reference, List.length_take, List.length_flatMap, length_wordBytes, List.map_const',
    List.sum_replicate_nat, length_framesOf]
  omega

theorem framesOf_ok_iff (s : List UInt8) :
    (∀ cs ∈ framesOf s, (∀ c ∈ cs, c ∈ alphabet) ∧ number cs < Word.limit) ↔
      (∀ c ∈ s.take (5 * (s.length / 5)), c ∈ alphabet) ∧
        ∀ cs ∈ framesOf s, number cs < Nat.pow 2 32 := by
  rw [← flatten_framesOf, List.forall_mem_flatten]
  exact ⟨fun h ↦ ⟨fun cs hc ↦ (h cs hc).1, fun cs hc ↦ (h cs hc).2⟩,
    fun h cs hc ↦ ⟨h.1 cs hc, h.2 cs hc⟩⟩

theorem canonical_iff {strict : Bool} {p : Nat} (v : Nat) (hp : p < 4) :
    (strict = true → paddingClear p v = true) ↔
      (strict = true → 0 < p → v % Nat.pow 2 (8 * p) = 0) := by
  rw [paddingClear_iff v hp]
  constructor
  · exact fun h hs _ ↦ h hs
  · intro h hs
    by_cases h0 : p = 0
    · simp [h0, Nat.mod_one]
    · exact h hs (by omega)

theorem grammar_iff {strict : Bool} {s : List UInt8} {p : Nat} :
    Grammar strict s p ↔ Shape.Admits strict s p ∧
      (∀ cs ∈ framesOf s, (∀ c ∈ cs, c ∈ alphabet) ∧ number cs < Word.limit) ∧
        (strict = true → paddingClear p (number ((framesOf s).getLastD [])) = true) := by
  constructor
  · intro h
    exact ⟨h.shape, (framesOf_ok_iff s).mpr ⟨h.alphabetic, h.inRange⟩,
      (canonical_iff _ h.shape.padding_lt).mpr h.canonical⟩
  · rintro ⟨hshape, hframes, hpad⟩
    obtain ⟨halpha, hrange⟩ := (framesOf_ok_iff s).mp hframes
    exact ⟨hshape, halpha, hrange, (canonical_iff _ hshape.padding_lt).mp hpad⟩

theorem Shape.read_eq_ok_iff (sh : Shape) (strict : Bool) (s b : List UInt8) :
    sh.read strict s = .ok b ↔
      (∀ cs ∈ framesOf s, (∀ c ∈ cs, c ∈ alphabet) ∧ number cs < Word.limit) ∧
        (strict = true → paddingClear sh.padding (number ((framesOf s).getLastD [])) = true) ∧
          b = ((framesOf s).flatMap (fun cs ↦ wordBytes (number cs))).take sh.size := by
  rw [Shape.read]
  cases hr : readFrames 0 s with
  | error e =>
    have hn : ¬∀ cs ∈ framesOf s, (∀ c ∈ cs, c ∈ alphabet) ∧ number cs < Word.limit :=
      fun h ↦ by
        rw [(readFrames_eq_ok_iff 0 s _).mpr ⟨h, rfl⟩] at hr
        cases hr
    simp [hn]
  | ok vs =>
    obtain ⟨hok, rfl⟩ := (readFrames_eq_ok_iff 0 s vs).mp hr
    have hbytes : ((framesOf s).map number).flatMap Word.bytes =
        (framesOf s).flatMap (fun cs ↦ wordBytes (number cs)) := by
      simp only [List.flatMap_map, wordBytes_eq_bytes]
    dsimp only
    rw [getLastD_map_number, hbytes]
    by_cases hpad :
        strict = true ∧ paddingClear sh.padding (number ((framesOf s).getLastD [])) = false
    · rw [if_pos hpad]
      obtain ⟨hs, hc⟩ := hpad
      simp only [reduceCtorEq, false_iff, not_and]
      exact fun _ h ↦ absurd (h hs) (by rw [hc]; decide)
    · rw [if_neg hpad, Except.ok.injEq]
      simp only [not_and, Bool.not_eq_false] at hpad
      exact ⟨fun h ↦ ⟨hok, hpad, h.symm⟩, fun h ↦ h.2.2.symm⟩

theorem Codec.decode_eq_ok_iff_shape (c : Codec) (s b : List UInt8) :
    c.decode s = .ok b ↔
      ∃ sh, Shape.ofText c.strict s = .ok sh ∧ sh.read c.strict s = .ok b := by
  rw [Codec.decode]
  cases Shape.ofText c.strict s <;> simp

/-- Reading accepts exactly the texts of the grammar, and gives their reference bytes. -/
theorem Codec.decode_eq_ok_iff (c : Codec) (s b : List UInt8) :
    c.decode s = .ok b ↔
      ∃ p, Grammar c.strict s p ∧ b = reference s p ∧ b.length = 4 * (s.length / 5) - p := by
  rw [Codec.decode_eq_ok_iff_shape]
  constructor
  · rintro ⟨sh, hsh, hread⟩
    obtain ⟨hk, hadm⟩ := (Shape.ofText_eq_ok_iff _ _ _).mp hsh
    obtain ⟨hok, hpad, rfl⟩ := (Shape.read_eq_ok_iff _ _ _ _).mp hread
    have hsize : sh.size = 4 * (s.length / 5) - sh.padding := by
      rw [Shape.size, hk, Nat.mul_comm]
    refine ⟨sh.padding, grammar_iff.mpr ⟨hadm, hok, hpad⟩, by rw [hsize]; rfl, ?_⟩
    rw [hsize]
    exact length_reference hadm.padding_le
  · rintro ⟨p, hg, rfl, -⟩
    obtain ⟨hadm, hok, hpad⟩ := grammar_iff.mp hg
    let sh : Shape := ⟨s.length / 5, p, hadm.padding_lt⟩
    refine ⟨sh, (Shape.ofText_eq_ok_iff _ _ _).mpr ⟨rfl, hadm⟩,
      (Shape.read_eq_ok_iff _ _ _ _).mpr ⟨hok, hpad, ?_⟩⟩
    simp only [reference, Shape.size, sh, Nat.mul_comm]

end Z85
