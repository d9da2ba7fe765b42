import Z85.Proofs.Grammar

namespace Z85

def refused (cs : List UInt8) : Bool :=
  cs.any (· ∉ alphabet) || decide (Nat.pow 2 32 ≤ number cs)

/-- The message of the first check that a text fails, or none: the length, the marker, the
marker `0` of a canonical reading, the frames from the left (a character outside the alphabet
before the range of the number), and last the padding bits of a canonical reading. -/
def rejection (strict : Bool) (s : List UInt8) : Option String :=
  let n := s.length
  let m := s.getLastD 0
  if 0 < n ∧ n < 5 ∨ n % 5 = 2 ∨ n % 5 = 3 ∨ n % 5 = 4 then
    some ("z85: invalid input length: " ++ toString n)
  else if n % 5 = 1 ∧ 3 < alphabet.idxOf m then
    some ("z85: invalid character: padding marker " ++ Text.Quoted.byte m ++
      " at position " ++ toString (n - 1))
  else if strict = true ∧ n % 5 = 1 ∧ m = '0'.toUInt8 then
    some "z85: non-canonical encoding: zero padding marker"
  else
    match (List.range (n / 5)).find? (fun f ↦ refused (frameAt s f)) with
    | some f =>
      let cs := frameAt s f
      if cs.any (· ∉ alphabet) then
        let j := cs.findIdx (· ∉ alphabet)
        some ("z85: invalid character: character " ++ Text.Quoted.byte (cs.getD j 0) ++
          " at position " ++ toString (5 * f + j))
      else some ("z85: frame value overflows 32 bits: frame at position " ++ toString (5 * f))
    | none =>
      let p := if n % 5 = 1 then alphabet.idxOf m else 0
      if strict = true ∧ 0 < p ∧ number (frameAt s (n / 5 - 1)) % Nat.pow 2 (8 * p) ≠ 0 then
        some "z85: non-canonical encoding: non-zero padding in final frame"
      else none

namespace Shape

theorem ofText_of_length {strict : Bool} {s : List UInt8}
    (h : 0 < s.length ∧ s.length < 5 ∨
      s.length % 5 = 2 ∨ s.length % 5 = 3 ∨ s.length % 5 = 4) :
    ofText strict s = .error (.invalidLength s.length) := by
  unfold ofText
  rw [if_neg (by omega)]
  by_cases h5 : s.length < 5
  · rw [if_pos h5]
  · rw [if_neg h5, if_neg (by omega), if_neg (by omega)]

theorem ofText_of_mod_one {strict : Bool} {s : List UInt8} (h1 : s.length % 5 = 1)
    (h5 : 5 ≤ s.length) : ofText strict s = ofMarker strict s.length (s.getLastD 0) := by
  unfold ofText
  rw [if_neg (by omega), if_neg (by omega), if_neg (by omega), if_pos h1]

theorem ofText_of_marker {strict : Bool} {s : List UInt8} (h1 : s.length % 5 = 1)
    (h5 : 5 ≤ s.length) (hm : 3 < alphabet.idxOf (s.getLastD 0)) :
    ofText strict s = .error (.badMarker (s.getLastD 0) (s.length - 1)) := by
  rw [ofText_of_mod_one h1 h5, ofMarker]
  cases hd : digitValue? (s.getLastD 0) with
  | none => rfl
  | some d =>
    obtain ⟨-, rfl⟩ := digitValue?_eq_some.mp hd
    dsimp only
    rw [dif_neg (by omega)]

theorem ofText_of_zeroMarker {s : List UInt8} (h1 : s.length % 5 = 1) (h5 : 5 ≤ s.length)
    (hm : s.getLastD 0 = '0'.toUInt8) : ofText true s = .error .zeroMarker := by
  have hd : digitValue? (s.getLastD 0) = some 0 := by
    rw [hm]
    decide
  rw [ofText_of_mod_one h1 h5, ofMarker, hd]
  rfl

theorem ofText_of_admitted {strict : Bool} {s : List UInt8}
    (hlen : ¬(0 < s.length ∧ s.length < 5 ∨ s.length % 5 = 2 ∨ s.length % 5 = 3 ∨
      s.length % 5 = 4))
    (hmark : ¬(s.length % 5 = 1 ∧ 3 < alphabet.idxOf (s.getLastD 0)))
    (hzero : ¬(strict = true ∧ s.length % 5 = 1 ∧ s.getLastD 0 = '0'.toUInt8)) :
    ∃ sh, ofText strict s = .ok sh ∧ sh.frames = s.length / 5 ∧
      sh.padding = if s.length % 5 = 1 then alphabet.idxOf (s.getLastD 0) else 0 := by
  by_cases h1 : s.length % 5 = 1
  · have hle : alphabet.idxOf (s.getLastD 0) ≤ 3 := by omega
    have hmem : s.getLastD 0 ∈ alphabet :=
      List.idxOf_lt_length_iff.mp (by rw [length_alphabet]; omega)
    have hd : digitValue? (s.getLastD 0) = some (alphabet.idxOf (s.getLastD 0)) :=
      digitValue?_eq_some.mpr ⟨hmem, rfl⟩
    have hnz : ¬(alphabet.idxOf (s.getLastD 0) = 0 ∧ strict = true) := by
      rintro ⟨h0, hs⟩
      have hb := digitByte_idxOf hmem
      rw [h0] at hb
      exact hzero ⟨hs, h1, by rw [← hb]; decide⟩
    refine ⟨⟨s.length / 5, alphabet.idxOf (s.getLastD 0), by omega⟩, ?_, rfl, by simp [h1]⟩
    rw [ofText_of_mod_one h1 (by omega), ofMarker, hd]
    dsimp only
    rw [dif_pos (by omega), if_neg hnz]
  · refine ⟨⟨s.length / 5, 0, by decide⟩, ?_, rfl, by simp [h1]⟩
    unfold ofText
    by_cases h0 : s.length = 0
    · rw [if_pos h0, h0]
    · rw [if_neg h0, if_neg (by omega), if_pos (by omega)]

end Shape

theorem refused_eq_false {cs : List UInt8} :
    refused cs = false ↔ (∀ c ∈ cs, c ∈ alphabet) ∧ number cs < Word.limit := by
  simp only [refused, Bool.or_eq_false_iff, List.any_eq_false, decide_eq_true_eq,
    Decidable.not_not, decide_eq_false_iff_not, Nat.not_le, Word.limit_eq]

theorem Frame.read_of_refused (pos : Nat) {cs : List UInt8} (hl : cs.length ≤ 5)
    (h : refused cs = true) : ∃ e, Frame.read pos cs = .error e := by
  cases hr : Frame.read pos cs with
  | error e => exact ⟨e, rfl⟩
  | ok v =>
    obtain ⟨hall, hlt, -⟩ := (Frame.read_eq_ok_iff pos hl v).mp hr
    rw [refused_eq_false.mpr ⟨hall, hlt⟩] at h
    cases h

theorem readFrames_of_find? {s : List UInt8} {f : Nat}
    (h : (List.range (s.length / 5)).find? (fun f ↦ refused (frameAt s f)) = some f) (pos : Nat) :
    ∃ e, Frame.read (pos + 5 * f) (frameAt s f) = .error e ∧ readFrames pos s = .error e := by
  induction s using frames_induction generalizing pos f with
  | short t ht => simp [Nat.div_eq_of_lt ht] at h
  | cons c0 c1 c2 c3 c4 rest ih =>
    rw [List.find?_range_eq_some] at h
    obtain ⟨hf, hlt, hbefore⟩ := h
    rw [readFrames]
    cases f with
    | zero =>
      obtain ⟨e, he⟩ := Frame.read_of_refused pos (length_frameAt_le _ 0) hf
      rw [frameAt_cons_zero] at he
      refine ⟨e, ?_, ?_⟩
      · rw [frameAt_cons_zero, Nat.mul_zero, Nat.add_zero, he]
      · rw [he]
    | succ f =>
      have h0 : refused [c0, c1, c2, c3, c4] = false := by
        simpa [frameAt_cons_zero] using hbefore 0 (by omega)
      obtain ⟨hall, hnum⟩ := refused_eq_false.mp h0
      have hrest : (List.range (rest.length / 5)).find? (fun f ↦ refused (frameAt rest f)) =
          some f := by
        rw [List.find?_range_eq_some]
        rw [frameAt_cons_succ] at hf
        refine ⟨hf, ?_, fun j hj ↦ ?_⟩
        · simp only [List.mem_range, List.length_cons] at hlt ⊢
          omega
        · simpa [frameAt_cons_succ] using hbefore (j + 1) (by omega)
      obtain ⟨e, he, hr⟩ := ih hrest (pos + 5)
      refine ⟨e, ?_, ?_⟩
      · rw [frameAt_cons_succ, show pos + 5 * (f + 1) = pos + 5 + 5 * f by omega, he]
      · rw [(Frame.read_eq_ok_iff pos (by simp) _).mpr ⟨hall, hnum, rfl⟩]
        dsimp only
        rw [hr]
        rfl

theorem readFrames_of_find?_none {s : List UInt8}
    (h : (List.range (s.length / 5)).find? (fun f ↦ refused (frameAt s f)) = none) (pos : Nat) :
    readFrames pos s = .ok ((framesOf s).map number) := by
  rw [List.find?_range_eq_none] at h
  refine (readFrames_eq_ok_iff pos s _).mpr ⟨?_, rfl⟩
  intro cs hcs
  obtain ⟨f, hf, rfl⟩ := List.mem_map.mp hcs
  exact refused_eq_false.mp (by simpa using h f (List.mem_range.mp hf))

theorem getLastD_framesOf {s : List UInt8} (h : 0 < s.length / 5) :
    (framesOf s).getLastD [] = frameAt s (s.length / 5 - 1) := by
  rw [List.getLastD_eq_getLast?, framesOf, List.getLast?_map, List.getLast?_range,
    if_neg (by omega)]
  rfl

theorem limit_le_of_refused {cs : List UInt8} (h : refused cs = true)
    (hall : ∀ c ∈ cs, c ∈ alphabet) :
    Word.limit ≤ number cs := by
  refine Nat.not_lt.mp fun hlt ↦ ?_
  rw [refused_eq_false.mpr ⟨hall, hlt⟩] at h
  cases h

theorem rejection_eq (c : Codec) (s : List UInt8) :
    rejection c.strict s = match c.decode s with
      | .ok _ => none
      | .error e => some e.message := by
  unfold rejection
  dsimp only
  by_cases hlen : 0 < s.length ∧ s.length < 5 ∨ s.length % 5 = 2 ∨ s.length % 5 = 3 ∨
      s.length % 5 = 4
  · rw [if_pos hlen, Codec.decode, Shape.ofText_of_length hlen]
    rfl
  rw [if_neg hlen]
  by_cases hmark : s.length % 5 = 1 ∧ 3 < alphabet.idxOf (s.getLastD 0)
  · rw [if_pos hmark, Codec.decode, Shape.ofText_of_marker hmark.1 (by omega) hmark.2]
    rfl
  rw [if_neg hmark]
  by_cases hzero : c.strict = true ∧ s.length % 5 = 1 ∧ s.getLastD 0 = '0'.toUInt8
  · obtain ⟨hs, h1, hm⟩ := hzero
    rw [if_pos ⟨hs, h1, hm⟩, Codec.decode, hs, Shape.ofText_of_zeroMarker h1 (by omega) hm]
    rfl
  rw [if_neg hzero]
  obtain ⟨sh, hsh, hk, hp⟩ := Shape.ofText_of_admitted hlen hmark hzero
  rw [Codec.decode, hsh]
  dsimp only
  rw [Shape.read]
  cases hf : (List.range (s.length / 5)).find? (fun f ↦ refused (frameAt s f)) with
  | some f =>
    obtain ⟨e, he, hr⟩ := readFrames_of_find? hf 0
    rw [hr, Nat.zero_add] at *
    have hrefused : refused (frameAt s f) = true := (List.find?_range_eq_some.mp hf).1
    dsimp only
    by_cases hany : (frameAt s f).any (· ∉ alphabet)
    · rw [if_pos hany]
      rw [Frame.read_of_not_mem _ hany] at he
      cases he
      rfl
    · rw [if_neg hany]
      have hall : ∀ c ∈ frameAt s f, c ∈ alphabet := by simpa using hany
      rw [Frame.read_of_le _ (length_frameAt_le s f) hall (limit_le_of_refused hrefused hall)]
        at he
      cases he
      rfl
  | none =>
    rw [readFrames_of_find?_none hf 0]
    dsimp only
    rw [getLastD_map_number, hp]
    obtain ⟨p, hpdef⟩ :
        ∃ p, (if s.length % 5 = 1 then alphabet.idxOf (s.getLastD 0) else 0) = p := ⟨_, rfl⟩
    have hp4 : p < 4 := by
      have := sh.padding_lt
      omega
    have hk : 0 < p → 0 < s.length / 5 := by
      intro hp0
      have h1 : s.length % 5 = 1 := by
        by_cases h1 : s.length % 5 = 1
        · exact h1
        · rw [if_neg h1] at hpdef
          omega
      omega
    rw [hpdef]
    by_cases hpad : c.strict = true ∧ 0 < p ∧
        number (frameAt s (s.length / 5 - 1)) % Nat.pow 2 (8 * p) ≠ 0
    · obtain ⟨hs, hp0, hnz⟩ := hpad
      have hclear : paddingClear p (number (frameAt s (s.length / 5 - 1))) = false :=
        Bool.eq_false_iff.mpr fun h ↦ hnz ((paddingClear_iff _ hp4).mp h)
      rw [if_pos ⟨hs, hp0, hnz⟩, getLastD_framesOf (hk hp0), if_pos ⟨hs, hclear⟩]
      rfl
    · rw [if_neg hpad, if_neg]
      intro h
      obtain ⟨hs, hclear⟩ := h
      by_cases hp0 : 0 < p
      · rw [getLastD_framesOf (hk hp0)] at hclear
        refine hpad ⟨hs, hp0, fun hz ↦ ?_⟩
        rw [(paddingClear_iff _ hp4).mpr hz] at hclear
        cases hclear
      · rw [show p = 0 by omega, paddingClear_zero] at hclear
        cases hclear

/-- A rejected text gets, from either codec, the message of the first check it fails. -/
theorem decode_error_message (c : Codec) (s : List UInt8) (msg : String) :
    (∃ e, c.decode s = .error e ∧ e.message = msg) ↔ rejection c.strict s = some msg := by
  rw [rejection_eq]
  cases c.decode s with
  | ok b => simp
  | error e => simp [eq_comm]

end Z85
