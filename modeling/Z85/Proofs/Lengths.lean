import Z85.Proofs.Agreement
import Z85.Proofs.Fill

namespace Z85

theorem Frame.digitsAt_error {pos : Nat} {cs : List UInt8} {e : Error}
    (h : Frame.digitsAt pos cs = .error e) : e.kind = .invalidCharacter := by
  induction pos, cs using Frame.digitsAt.induct with
  | case1 pos => cases h
  | case2 pos c cs d hd ih =>
    rw [Frame.digitsAt, hd] at h
    cases hr : Frame.digitsAt (pos + 1) cs with
    | ok ds =>
      rw [hr] at h
      cases h
    | error e' =>
      rw [hr] at h
      cases h
      exact ih hr
  | case3 pos c cs hd =>
    rw [Frame.digitsAt, hd] at h
    cases h
    rfl

theorem Frame.read_error {pos : Nat} {cs : List UInt8} {e : Error}
    (h : Frame.read pos cs = .error e) :
    e.kind = .invalidCharacter ∨ e.kind = .frameOverflow := by
  unfold Frame.read at h
  cases hd : Frame.digitsAt pos cs with
  | error e' =>
    rw [hd] at h
    cases h
    exact .inl (Frame.digitsAt_error hd)
  | ok ds =>
    rw [hd] at h
    dsimp only at h
    split at h
    · cases h
      exact .inr rfl
    · cases h

theorem readFrames_error {pos : Nat} {s : List UInt8} {e : Error}
    (h : readFrames pos s = .error e) :
    e.kind = .invalidCharacter ∨ e.kind = .frameOverflow := by
  induction pos, s using readFrames.induct with
  | case1 pos c0 c1 c2 c3 c4 rest e' hf =>
    rw [readFrames, hf] at h
    cases h
    exact Frame.read_error hf
  | case2 pos c0 c1 c2 c3 c4 rest v hf ih =>
    rw [readFrames, hf] at h
    dsimp only at h
    cases hr : readFrames (pos + 5) rest with
    | ok vs =>
      rw [hr] at h
      cases h
    | error e' =>
      rw [hr] at h
      cases h
      exact ih hr
  | case3 t pos hshort =>
    rw [readFrames.eq_def] at h
    split at h
    · exact absurd rfl (hshort _ _ _ _ _ _)
    · cases h

theorem Shape.ofMarker_error {strict : Bool} {n : Nat} {b : UInt8} {e : Error}
    (h : Shape.ofMarker strict n b = .error e) :
    e.kind = .invalidCharacter ∨ e.kind = .nonCanonical := by
  unfold Shape.ofMarker at h
  split at h
  · split at h
    · split at h
      · cases h
        exact .inr rfl
      · cases h
    · cases h
      exact .inl rfl
  · cases h
    exact .inl rfl

theorem Shape.ofText_error {strict : Bool} {s : List UInt8} {e : Error}
    (h : Shape.ofText strict s = .error e) :
    e.kind = .invalidLength ∨ e.kind = .invalidCharacter ∨ e.kind = .nonCanonical := by
  unfold Shape.ofText at h
  split at h
  · cases h
  split at h
  · cases h
    exact .inl rfl
  split at h
  · cases h
  split at h
  · exact .inr (Shape.ofMarker_error h)
  · cases h
    exact .inl rfl

theorem Codec.decode_error_kind {c : Codec} {s : List UInt8} {e : Error}
    (h : c.decode s = .error e) : e.kind ≠ .shortBuffer := by
  unfold Codec.decode at h
  cases hsh : Shape.ofText c.strict s with
  | error e' =>
    rw [hsh] at h
    cases h
    rcases Shape.ofText_error hsh with hk | hk | hk <;> rw [hk] <;> decide
  | ok sh =>
    rw [hsh] at h
    dsimp only at h
    unfold Shape.read at h
    cases hr : readFrames 0 s with
    | error e' =>
      rw [hr] at h
      cases h
      rcases readFrames_error hr with hk | hk <;> rw [hk] <;> decide
    | ok vs =>
      rw [hr] at h
      dsimp only at h
      split at h
      · cases h
        decide
      · cases h

theorem Shape.Admits.padding_eq_zero_iff {strict : Bool} {s : List UInt8} {p : Nat}
    (h : Shape.Admits strict s p) : p = 0 ↔ s.length % 5 = 0 ∨ ZeroMarked s := by
  rcases h with ⟨rfl, rfl⟩ | ⟨-, h0, rfl⟩ | ⟨h6, h1, hp3, -, hlast⟩
  · simp
  · simp [h0]
  · have hz : ZeroMarked s ↔ p = 0 := by
      rw [ZeroMarked, hlast]
      exact ⟨fun hz ↦ getElem?_alphabet_inj (by omega) (by decide) hz.2.2,
        fun hp ↦ ⟨h6, h1, by rw [hp]⟩⟩
    rw [hz]
    omega

theorem Codec.length_of_decode_eq {c : Codec} {s b : List UInt8} (h : c.decode s = .ok b) :
    ∃ p, Shape.Admits c.strict s p ∧ b.length = 4 * (s.length / 5) - p := by
  obtain ⟨sh, hsh, hr⟩ := (Codec.decode_eq_ok_iff_shape c s b).mp h
  exact ⟨sh.padding, ((Shape.ofText_eq_ok_iff c.strict s sh).mp hsh).2,
    (Shape.length_read hsh hr).trans (Shape.size_of_ofText hsh)⟩

theorem Codec.decodeInto_not_short (c : Codec) {dst s : List UInt8}
    (h : 4 * (s.length / 5) ≤ dst.length) (need size : Nat) :
    (c.decodeInto dst s).written ≠ .error (.shortBuffer need size) := by
  intro hw
  cases hsh : Shape.ofText c.strict s with
  | error e =>
    rw [Codec.decodeInto_of_ofText_error hsh] at hw
    cases hw
    exact Codec.decode_error_kind (Codec.decode_of_ofText_error hsh) rfl
  | ok sh =>
    have hle : sh.size ≤ dst.length := by
      rw [Shape.size_of_ofText hsh]
      omega
    cases hd : c.decode s with
    | ok b =>
      rw [Codec.decodeInto_of_le_of_ok hsh hle hd] at hw
      cases hw
    | error e =>
      rw [Codec.decodeInto_of_le_of_error hsh hle hd] at hw
      cases hw
      exact Codec.decode_error_kind hd rfl

theorem toInt_mod_four {n : Int64} (h : 0 ≤ n.toInt) : (n % 4).toInt = n.toInt % 4 := by
  rw [Int64.toInt_mod, show (4 : Int64).toInt = 4 from rfl, Int.tmod_eq_emod_of_nonneg h]

theorem toInt_div_four {n : Int64} (h : 0 ≤ n.toInt) : (n / 4).toInt = n.toInt / 4 := by
  rw [Int64.toInt_div_of_ne_right n 4 (by decide), show (4 : Int64).toInt = 4 from rfl,
    Int.tdiv_eq_ediv_of_nonneg h]

theorem mod_four_eq_zero_iff {n : Int64} (h : 0 ≤ n.toInt) : n % 4 = 0 ↔ n.toInt % 4 = 0 := by
  rw [← Int64.toInt_inj, toInt_mod_four h, Int64.toInt_zero]

theorem bmod_of_wraps {x : Int} (h0 : 9223372036854775808 ≤ x) (h1 : x < 18446744073709551616) :
    x.bmod (2 ^ 64) = x - 18446744073709551616 := by
  rw [Int.bmod_def, Int.emod_eq_of_lt (by omega) (by omega), if_neg (by omega)]
  rfl

theorem decodedLength_toInt {n : Int64} (h : 0 ≤ n) :
    (decodedLength n).toInt = 4 * (n.toInt / 5) := by
  have h0 : 0 ≤ n.toInt := Int64.le_iff_toInt_le.mp h
  have hlt := Int64.toInt_lt n
  have hq : (n / 5).toInt = n.toInt / 5 := by
    rw [Int64.toInt_div_of_ne_right n 5 (by decide), show (5 : Int64).toInt = 5 from rfl,
      Int.tdiv_eq_ediv_of_nonneg h0]
  rw [decodedLength, Int64.toInt_mul, hq, show (4 : Int64).toInt = 4 from rfl]
  exact (Int.bmod_eq_of_le (by omega) (by omega)).trans (Int.mul_comm _ _)

theorem encodedLength_toInt {n : Int64} (h0 : 0 ≤ n) (h : n ≤ 7378697629483820644) :
    (encodedLength n).toInt =
      if n.toInt % 4 = 0 then n.toInt / 4 * 5 else (n.toInt / 4 + 1) * 5 + 1 := by
  have hn0 : 0 ≤ n.toInt := Int64.le_iff_toInt_le.mp h0
  have hn : n.toInt ≤ 7378697629483820644 := Int64.le_iff_toInt_le.mp h
  have hq := toInt_div_four hn0
  have hzero := mod_four_eq_zero_iff hn0
  simp only [encodedLength, Layout.plan]
  by_cases hm : n.toInt % 4 = 0
  · rw [if_pos (hzero.mpr hm), if_pos hm, Int64.toInt_mul, hq,
      show (5 : Int64).toInt = 5 from rfl]
    exact Int.bmod_eq_of_le (by omega) (by omega)
  · rw [if_neg (fun h ↦ hm (hzero.mp h)), if_neg hm, Int64.toInt_add, Int64.toInt_mul,
      Int64.toInt_add, hq]
    have hsum : (n.toInt / 4 + 1).bmod (2 ^ 64) = n.toInt / 4 + 1 :=
      Int.bmod_eq_of_le (by omega) (by omega)
    have hprod : ((n.toInt / 4 + 1) * 5).bmod (2 ^ 64) = (n.toInt / 4 + 1) * 5 :=
      Int.bmod_eq_of_le (by omega) (by omega)
    rw [show (1 : Int64).toInt = 1 from rfl, show (5 : Int64).toInt = 5 from rfl, hsum, hprod]
    exact Int.bmod_eq_of_le (by omega) (by omega)

theorem encodedLength_neg {n : Int64} (h : 7378697629483820644 < n) : encodedLength n < 0 := by
  have hn : 7378697629483820644 < n.toInt := Int64.lt_iff_toInt_lt.mp h
  have hlt := Int64.toInt_lt n
  have hq := toInt_div_four (n := n) (by omega)
  have hzero := mod_four_eq_zero_iff (n := n) (by omega)
  rw [Int64.lt_iff_toInt_lt, Int64.toInt_zero]
  simp only [encodedLength, Layout.plan]
  by_cases hm : n.toInt % 4 = 0
  · -- a whole last group: at least 1844674407370955162 groups, so the product passes 2 ^ 63
    rw [if_pos (hzero.mpr hm), Int64.toInt_mul, hq, show (5 : Int64).toInt = 5 from rfl,
      bmod_of_wraps (by omega) (by omega)]
    omega
  · -- a short last group: the padded frame's product wraps, and the marker keeps it negative
    rw [if_neg (fun h ↦ hm (hzero.mp h)), Int64.toInt_add, Int64.toInt_mul, Int64.toInt_add, hq,
      show (1 : Int64).toInt = 1 from rfl, show (5 : Int64).toInt = 5 from rfl]
    have hsum : (n.toInt / 4 + 1).bmod (2 ^ 64) = n.toInt / 4 + 1 :=
      Int.bmod_eq_of_le (by omega) (by omega)
    have hprod : ((n.toInt / 4 + 1) * 5).bmod (2 ^ 64) =
        (n.toInt / 4 + 1) * 5 - 18446744073709551616 :=
      bmod_of_wraps (by omega) (by omega)
    rw [hsum, hprod, Int.bmod_eq_of_le (by omega) (by omega)]
    omega

theorem decodedLength_encodedLength {n : Int64} (h0 : 0 ≤ n) (h : n ≤ 7378697629483820644) :
    decodedLength (encodedLength n) = n + (4 - n % 4) % 4 := by
  have hn0 : 0 ≤ n.toInt := Int64.le_iff_toInt_le.mp h0
  have hn : n.toInt ≤ 7378697629483820644 := Int64.le_iff_toInt_le.mp h
  have hlen := encodedLength_toInt h0 h
  have hpos : 0 ≤ encodedLength n := by
    rw [Int64.le_iff_toInt_le, hlen, Int64.toInt_zero]
    split <;> omega
  have hsub : (4 - n % 4).toInt = 4 - n.toInt % 4 := by
    rw [Int64.toInt_sub, toInt_mod_four hn0, show (4 : Int64).toInt = 4 from rfl]
    exact Int.bmod_eq_of_le (by omega) (by omega)
  have hpad : ((4 - n % 4) % 4).toInt = (4 - n.toInt % 4) % 4 := by
    rw [Int64.toInt_mod, hsub, show (4 : Int64).toInt = 4 from rfl,
      Int.tmod_eq_emod_of_nonneg (by omega)]
  rw [← Int64.toInt_inj, decodedLength_toInt hpos, hlen, Int64.toInt_add, hpad,
    Int.bmod_eq_of_le (by omega) (by omega)]
  split <;> omega

/-- `decodedLength` is a tight bound on the bytes of a text. For every non-negative length it is
four bytes for each whole frame, with no wrapping. Every text that a codec accepts stands for at
most that many bytes and at least three fewer, and for exactly that many when it has no marker or
the marker `0`; so reading into a buffer of that many bytes is never refused as short. And for
every count of bytes `n` up to 7378697629483820644, the bound for the length of the text of `n`
bytes is `n` and the padding that writing adds. -/
theorem decodedLength_bounds :
    (∀ n : Int64, 0 ≤ n → (decodedLength n).toInt = 4 * (n.toInt / 5)) ∧
    (∀ (c : Codec) (s b : List UInt8), c.decode s = .ok b →
      4 * (s.length / 5) ≤ b.length + 3 ∧ b.length ≤ 4 * (s.length / 5) ∧
      (b.length = 4 * (s.length / 5) ↔ s.length % 5 = 0 ∨ ZeroMarked s)) ∧
    (∀ (c : Codec) (dst s : List UInt8), 4 * (s.length / 5) ≤ dst.length →
      ∀ need size, (c.decodeInto dst s).written ≠ .error (.shortBuffer need size)) ∧
    ∀ n : Int64, 0 ≤ n → n ≤ 7378697629483820644 →
      decodedLength (encodedLength n) = n + (4 - n % 4) % 4 := by
  refine ⟨fun n h ↦ decodedLength_toInt h, fun c s b h ↦ ?_,
    fun c dst s h ↦ Codec.decodeInto_not_short c h,
    fun n h0 h ↦ decodedLength_encodedLength h0 h⟩
  obtain ⟨p, hadm, hlen⟩ := Codec.length_of_decode_eq h
  have hp3 := hadm.padding_lt
  have hple := hadm.padding_le
  refine ⟨by omega, by omega, ?_⟩
  rw [← hadm.padding_eq_zero_iff]
  omega

/-- Planning the text of `n` bytes in signed 64-bit words is exact exactly up to
7378697629483820644 bytes. Up to there the whole groups, the bytes after them and the length of
the text are their integer values, so the text is never shorter than its bytes; from there to
the largest word the length wraps to a negative word. -/
theorem plan_exact_up_to_bound :
    (∀ n : Int64, 0 ≤ n → n ≤ 7378697629483820644 →
      (Layout.plan n).frames.toInt = n.toInt / 4 ∧
      (Layout.plan n).remainder.toInt = n.toInt % 4 ∧
      (Layout.plan n).length.toInt =
        (if n.toInt % 4 = 0 then 5 * (n.toInt / 4) else 5 * (n.toInt / 4) + 6) ∧
      n.toInt ≤ (Layout.plan n).length.toInt) ∧
    ∀ n : Int64, 7378697629483820644 < n → (Layout.plan n).length < 0 := by
  refine ⟨fun n h0 h ↦ ?_, fun n h ↦ encodedLength_neg h⟩
  have hn0 : 0 ≤ n.toInt := Int64.le_iff_toInt_le.mp h0
  have hlen : (Layout.plan n).length.toInt =
      if n.toInt % 4 = 0 then n.toInt / 4 * 5 else (n.toInt / 4 + 1) * 5 + 1 :=
    encodedLength_toInt h0 h
  refine ⟨toInt_div_four hn0, toInt_mod_four hn0, ?_, ?_⟩ <;> rw [hlen] <;> split <;> omega

end Z85
