import Z85.Curve.Pair
import Z85.Proofs.Agreement
import Z85.Proofs.Concat
import Z85.Proofs.Fill

namespace Z85

namespace Text.Hex

theorem digitValue?_digitByte : ∀ d, d < 16 → digitValue? (digitByte d) = some d := by
  decide

theorem decode_encodeBytes (bs : List UInt8) : decode (encodeBytes bs) = .ok bs := by
  induction bs with
  | nil => rfl
  | cons b bs ih =>
    have hb := b.toNat_lt
    have hbyte : (b.toNat / 16 * 16 + b.toNat % 16).toUInt8 = b := by
      rw [Nat.div_add_mod']
      exact UInt8.ofNat_toNat
    simp only [encodeBytes, List.flatMap_cons, List.cons_append, List.nil_append] at ih ⊢
    rw [decode, digitValue?_digitByte _ (by omega), digitValue?_digitByte _ (by omega), ih]
    simp only [Except.map, hbyte]

end Text.Hex

theorem Codec.length_of_decode {c : Codec} {s b : List UInt8} (h : c.decode s = .ok b)
    (h0 : s.length % 5 = 0) : b.length = 4 * (s.length / 5) := by
  obtain ⟨sh, hsh, hr⟩ := (Codec.decode_eq_ok_iff_shape c s b).mp h
  have hp := ((Shape.ofText_eq_ok_iff _ s sh).mp hsh).2.padding_eq_zero h0
  rw [Shape.length_read hsh hr, Shape.size_of_ofText hsh, hp, Nat.sub_zero]

namespace Curve.Key

theorem length_text (k : Key) : k.text.length = 40 := by
  rw [text, length_encode, k.length_bytes]
  rfl

theorem ofBytes_eq {bs : List UInt8} (h : bs.length = 32) : ofBytes bs = ⟨bs, h⟩ := by
  simp only [ofBytes, Key.mk.injEq]
  exact List.take_left' h

theorem length_zero : zero.bytes.length = 32 := zero.length_bytes

theorem readText_of_decode {s b : List UInt8} (hlen : s.length = 40)
    (h : Codec.canonical.decode s = .ok b) :
    ∃ hb : b.length = 32, readText s = ⟨⟨b, hb⟩, none⟩ := by
  have hb : b.length = 32 := by
    rw [Codec.length_of_decode h (by omega), hlen]
  refine ⟨hb, ?_⟩
  have hfill := Codec.decodeInto_of_decode zero.bytes h (by rw [hb, length_zero])
  unfold readText
  rw [if_pos hlen, hfill, hb, List.drop_of_length_le length_zero.le, List.append_nil]
  dsimp only
  rw [ofBytes_eq hb]

theorem readText_failure_of_decode {s : List UInt8} {e : Error} (hlen : s.length = 40)
    (h : Codec.canonical.decode s = .error e) : (readText s).failure = some (.text e) := by
  have hw := Codec.decodeInto_of_decode_error zero.bytes h (by rw [hlen, length_zero])
  unfold readText
  rw [if_pos hlen]
  dsimp only
  rw [hw]

theorem ofText_eq_ok_iff {s : List UInt8} {k : Key} :
    ofText s = .ok k ↔ s.length = 40 ∧ Codec.canonical.decode s = .ok k.bytes := by
  by_cases hlen : s.length = 40
  · cases hd : Codec.canonical.decode s with
    | error e =>
      have hf := readText_failure_of_decode hlen hd
      simp [ofText, hf]
    | ok b =>
      obtain ⟨hb, hr⟩ := readText_of_decode hlen hd
      simp only [ofText, hr, Except.ok.injEq, hlen, true_and]
      constructor
      · rintro rfl
        rfl
      · intro h
        subst h
        rfl
  · have hr : readText s = ⟨zero, some (.textLength s.length)⟩ := by
      unfold readText
      rw [if_neg hlen]
    simp [ofText, hr, hlen]

theorem ofText_text (k : Key) : ofText k.text = .ok k :=
  ofText_eq_ok_iff.mpr ⟨length_text k, Codec.decode_encode_self _ k.bytes⟩

theorem text_of_ofText {s : List UInt8} {k : Key} (h : ofText s = .ok k) : k.text = s := by
  obtain ⟨-, hd⟩ := ofText_eq_ok_iff.mp h
  obtain ⟨fr, rfl, hb⟩ := Frames.exists_text_of_decode rfl hd
  rw [text, ← hb, fr.encode_bytes]

theorem ofText_length_forty {strict : Bool} {s : List UInt8} (hlen : s.length = 40) :
    Shape.ofText strict s = .ok ⟨8, 0, by decide⟩ := by
  unfold Shape.ofText
  rw [hlen]
  rfl

theorem readText_of_length_ne {s : List UInt8} (hlen : s.length ≠ 40) :
    readText s = ⟨zero, some (.textLength s.length)⟩ := by
  unfold readText
  rw [if_neg hlen]

theorem validateText_of_length_ne {s : List UInt8} (hlen : s.length ≠ 40) :
    validateText s = .error (.textLength s.length) := by
  unfold validateText
  rw [if_neg hlen]

theorem validateText_of_decode {s b : List UInt8} (hlen : s.length = 40)
    (h : Codec.canonical.decode s = .ok b) : validateText s = .ok () := by
  unfold validateText
  rw [if_pos hlen, Codec.validate_eq_map_decode, h]
  rfl

theorem validateText_of_decode_error {s : List UInt8} {e : Error} (hlen : s.length = 40)
    (h : Codec.canonical.decode s = .error e) : validateText s = .error (.text e) := by
  unfold validateText
  rw [if_pos hlen, Codec.validate_eq_map_decode, h]
  rfl

theorem validateText_eq_failure (s : List UInt8) :
    validateText s = match (readText s).failure with
      | none => .ok ()
      | some e => .error e := by
  by_cases hlen : s.length = 40
  · cases hd : Codec.canonical.decode s with
    | ok b =>
      obtain ⟨_, hr⟩ := readText_of_decode hlen hd
      rw [hr, validateText_of_decode hlen hd]
    | error e =>
      rw [readText_failure_of_decode hlen hd, validateText_of_decode_error hlen hd]
  · rw [readText_of_length_ne hlen, validateText_of_length_ne hlen]

theorem key_readText_of_length {s : List UInt8} (hlen : s.length = 40) :
    (readText s).key = ofBytes (Codec.canonical.decodeInto zero.bytes s).buffer := by
  unfold readText
  rw [if_pos hlen]
  dsimp only
  split <;> rfl

theorem key_readText_of_failure {s : List UInt8} {e : KeyError}
    (h : (readText s).failure = some e) : (readText s).key = zero := by
  by_cases hlen : s.length = 40
  · cases hd : Codec.canonical.decode s with
    | ok b =>
      obtain ⟨_, hr⟩ := readText_of_decode hlen hd
      rw [hr] at h
      cases h
    | error e' =>
      rw [key_readText_of_length hlen, Codec.decodeInto_of_le_of_error
        (ofText_length_forty hlen) (by rw [length_zero]; decide) hd]
      rfl
  · rw [readText_of_length_ne hlen]

theorem ofHex_hexText (k : Key) : ofHex k.hexText = .ok k := by
  rw [ofHex, hexText, Text.Hex.decode_encodeBytes]
  dsimp only
  rw [dif_pos k.length_bytes]

end Curve.Key

namespace Curve.KeyPair

theorem ofParts_of_ok {read : List UInt8 → Except KeyError Key} {pub sec : List UInt8}
    {p s : Key} (hp : read pub = .ok p) (hs : read sec = .ok s) :
    ofParts read pub sec = .ok ⟨p, s⟩ := by
  rw [ofParts, hp]
  dsimp only
  rw [hs]

end Curve.KeyPair

open Curve in
/-- Both text forms of a key pair read back to the pair, and key texts have 40 characters. The
text form is one to one: a text read as a key is the text of that key, and the texts read as keys
are exactly the 40-character texts that the canonical codec accepts. -/
theorem key_text_forms :
    (∀ kp : KeyPair, KeyPair.ofTexts kp.publicKey.text kp.secretKey.text = .ok kp ∧
      KeyPair.ofHex kp.publicKey.hexText kp.secretKey.hexText = .ok kp ∧
      kp.publicKey.text.length = 40 ∧ kp.secretKey.text.length = 40) ∧
    (∀ s k, Key.ofText s = .ok k → encode k.bytes = s) ∧
    ∀ s, (∃ k, Key.ofText s = .ok k) ↔ s.length = 40 ∧ Codec.canonical.validate s = .ok () := by
  refine ⟨fun kp ↦ ⟨?_, ?_, Key.length_text _, Key.length_text _⟩,
    fun s k h ↦ Key.text_of_ofText h, fun s ↦ ⟨?_, ?_⟩⟩
  · exact KeyPair.ofParts_of_ok (Key.ofText_text _) (Key.ofText_text _)
  · exact KeyPair.ofParts_of_ok (Key.ofHex_hexText _) (Key.ofHex_hexText _)
  · rintro ⟨k, h⟩
    obtain ⟨hlen, hd⟩ := Key.ofText_eq_ok_iff.mp h
    rw [Codec.validate_eq_map_decode, hd]
    exact ⟨hlen, rfl⟩
  · rintro ⟨hlen, hv⟩
    rw [Codec.validate_eq_map_decode] at hv
    cases hd : Codec.canonical.decode s with
    | error e => rw [hd] at hv; cases hv
    | ok b =>
      obtain ⟨hb, -⟩ := Key.readText_of_decode hlen hd
      exact ⟨⟨b, hb⟩, Key.ofText_eq_ok_iff.mpr ⟨hlen, hd⟩⟩

open Curve in
/-- Checking a key's text agrees with reading it, on every text: the check passes exactly when
reading gives a key, and otherwise both report the same failure, so the same message. Each such
failure is of an invalid key; for a text of 40 characters it is the canonical reading's failure,
whose class it carries as well, and for any other length it is the length alone. A text that
reading refuses leaves the key all zero. -/
theorem key_check_agrees (s : List UInt8) :
    (Key.validateText s = .ok () ↔ (Key.readText s).failure = none) ∧
    (∀ e, (Key.readText s).failure = some e ↔ Key.validateText s = .error e) ∧
    (∀ e, Key.validateText s = .error e →
      (s.length = 40 → ∃ e', Codec.canonical.decode s = .error e' ∧ e = .text e' ∧
        e.kinds = [.invalidKey, e'.kind]) ∧
      (s.length ≠ 40 → e = .textLength s.length ∧ e.kinds = [.invalidKey])) ∧
    ∀ e, (Key.readText s).failure = some e → (Key.readText s).key = Key.zero := by
  refine ⟨?_, fun e ↦ ?_, fun e he ↦ ⟨fun hlen ↦ ?_, fun hlen ↦ ?_⟩,
    fun e h ↦ Key.key_readText_of_failure h⟩
  · rw [Key.validateText_eq_failure]
    cases (Key.readText s).failure <;> simp
  · rw [Key.validateText_eq_failure]
    cases (Key.readText s).failure <;> simp
  · cases hd : Codec.canonical.decode s with
    | ok b =>
      rw [Key.validateText_of_decode hlen hd] at he
      cases he
    | error e' =>
      rw [Key.validateText_of_decode_error hlen hd] at he
      cases he
      exact ⟨e', rfl, rfl, rfl⟩
  · rw [Key.validateText_of_length_ne hlen] at he
    cases he
    exact ⟨rfl, rfl⟩

end Z85
