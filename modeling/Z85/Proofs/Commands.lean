import Z85.Cli.Commands
import Z85.Proofs.RoundTrip

namespace Z85

theorem alphabet_printable : ∀ b ∈ alphabet, 33 ≤ b.toNat ∧ b.toNat ≤ 126 := by
  have h : alphabet.all (fun b ↦ 33 ≤ b.toNat && b.toNat ≤ 126) = true := by decide +kernel
  simpa using h

theorem Frames.mem_text {fr : Frames} {c : UInt8} (h : c ∈ fr.text) : c ∈ alphabet := by
  rw [Frames.text, List.mem_append, List.mem_flatMap] at h
  rcases h with ⟨v, -, hv⟩ | hm
  · exact Frame.write_mem hv
  · have hp := fr.padding_lt
    unfold Frames.marker at hm
    split at hm
    · simp at hm
    · rw [List.mem_singleton.mp hm]
      exact digitByte_mem (by omega)

theorem mem_encode {bs : List UInt8} {c : UInt8} (h : c ∈ encode bs) : c ∈ alphabet := by
  obtain ⟨fr, rfl⟩ := Frames.exists_bytes_eq bs
  rw [fr.encode_bytes] at h
  exact fr.mem_text h

def Text.Utf8.encodeChars (w : List Char) : List UInt8 :=
  w.flatMap String.utf8EncodeChar

namespace Text.Blank

def spaceCodes : List Nat :=
  [0x09, 0x0A, 0x0B, 0x0C, 0x0D, 0x20, 0x85, 0xA0, 0x1680, 0x2000, 0x2001, 0x2002, 0x2003,
    0x2004, 0x2005, 0x2006, 0x2007, 0x2008, 0x2009, 0x200A, 0x2028, 0x2029, 0x202F, 0x205F, 0x3000]

/-- A white-space character. -/
def IsSpace (c : Char) : Prop :=
  c.toNat ∈ spaceCodes

instance (c : Char) : Decidable (IsSpace c) :=
  inferInstanceAs (Decidable (c.toNat ∈ spaceCodes))

theorem utf8EncodeChar_mem {c : Char} (h : IsSpace c) : String.utf8EncodeChar c ∈ encodings := by
  have hall : ∀ n ∈ spaceCodes, String.utf8EncodeChar (Char.ofNat n) ∈ encodings := by decide
  rw [← Char.ofNat_toNat c]
  exact hall _ h

theorem not_mem_alphabet {e : List UInt8} (he : e ∈ encodings) {b : UInt8} (hb : b ∈ e) :
    b ∉ alphabet := by
  have hall : encodings.all (fun e ↦ e.all (fun b ↦ b.toNat < 33 || 126 < b.toNat)) = true := by
    decide
  have hout := List.all_eq_true.mp (List.all_eq_true.mp hall e he) b hb
  simp only [Bool.or_eq_true, decide_eq_true_eq] at hout
  intro hmem
  have := alphabet_printable b hmem
  omega

theorem prefix_free {e e' : List UInt8} (he : e ∈ encodings) (he' : e' ∈ encodings)
    (h : e <+: e' ∨ e' <+: e) : e = e' := by
  have hall : encodings.all (fun e ↦ encodings.all (fun e' ↦
      !(e.isPrefixOf e' || e'.isPrefixOf e) || e == e')) = true := by
    decide
  have hcheck := List.all_eq_true.mp (List.all_eq_true.mp hall e he) e' he'
  rcases h with h | h <;> simpa [List.isPrefixOf_iff_prefix.mpr h] using hcheck

theorem suffix_free {e e' : List UInt8} (he : e ∈ encodings) (he' : e' ∈ encodings)
    (h : e <:+ e' ∨ e' <:+ e) : e = e' := by
  have hall : encodings.all (fun e ↦ encodings.all (fun e' ↦
      !(e.isSuffixOf e' || e'.isSuffixOf e) || e == e')) = true := by
    decide
  have hcheck := List.all_eq_true.mp (List.all_eq_true.mp hall e he) e' he'
  rcases h with h | h <;> simpa [List.isSuffixOf_iff_suffix.mpr h] using hcheck

theorem trimStart_drop_blank {e bs : List UInt8} (he : e ∈ encodings) (hp : e <+: bs) :
    trimStart bs = trimStart (bs.drop e.length) := by
  conv_lhs => rw [trimStart]
  split
  · next e' h' =>
    have hp' : e' <+: bs := by simpa using List.find?_some h'
    rw [prefix_free (List.mem_of_find?_eq_some h') he (List.prefix_or_prefix_of_prefix hp' hp)]
  · next h' =>
    exact absurd (by simpa using hp) (List.find?_eq_none.mp h' e he)

theorem trimStart_eq_self {bs : List UInt8} (h : ∀ e ∈ encodings, ¬e <+: bs) :
    trimStart bs = bs := by
  rw [trimStart]
  split
  · next e' h' =>
    exact absurd (by simpa using List.find?_some h') (h e' (List.mem_of_find?_eq_some h'))
  · rfl

theorem trimEnd_take_blank {e bs : List UInt8} (he : e ∈ encodings) (hs : e <:+ bs) :
    trimEnd bs = trimEnd (bs.take (bs.length - e.length)) := by
  conv_lhs => rw [trimEnd]
  split
  · next e' h' =>
    have hs' : e' <:+ bs := by simpa using List.find?_some h'
    rw [suffix_free (List.mem_of_find?_eq_some h') he (List.suffix_or_suffix_of_suffix hs' hs)]
  · next h' =>
    exact absurd (by simpa using hs) (List.find?_eq_none.mp h' e he)

theorem trimEnd_eq_self {bs : List UInt8} (h : ∀ e ∈ encodings, ¬e <:+ bs) :
    trimEnd bs = bs := by
  rw [trimEnd]
  split
  · next e' h' =>
    exact absurd (by simpa using List.find?_some h') (h e' (List.mem_of_find?_eq_some h'))
  · rfl

theorem trimStart_of_head {bs : List UInt8} (h : ∀ b ∈ bs.head?, b ∈ alphabet) :
    trimStart bs = bs := by
  apply trimStart_eq_self
  intro e he hp
  obtain ⟨d, e', rfl⟩ := List.exists_cons_of_length_pos (length_pos e he)
  obtain ⟨t, rfl⟩ := hp
  exact not_mem_alphabet he List.mem_cons_self (h d (by simp))

theorem trimEnd_of_getLast {bs : List UInt8} (h : ∀ b ∈ bs.getLast?, b ∈ alphabet) :
    trimEnd bs = bs := by
  apply trimEnd_eq_self
  intro e he hs
  rcases List.eq_nil_or_concat e with rfl | ⟨e', d, rfl⟩
  · exact absurd (length_pos _ he) (by simp)
  obtain ⟨t, rfl⟩ := hs
  exact not_mem_alphabet he (by simp) (h d (by simp))

theorem trimStart_flatten_append {es : List (List UInt8)} (h : ∀ e ∈ es, e ∈ encodings)
    (t : List UInt8) : trimStart (es.flatten ++ t) = trimStart t := by
  induction es with
  | nil => rfl
  | cons e es ih =>
    have he : e ∈ encodings := h e List.mem_cons_self
    rw [List.flatten_cons, List.append_assoc, trimStart_drop_blank he (List.prefix_append _ _),
      List.drop_left, ih (fun e' h' ↦ h e' (List.mem_cons_of_mem _ h'))]

theorem trimEnd_append_flatten {es : List (List UInt8)} (h : ∀ e ∈ es, e ∈ encodings)
    (u : List UInt8) : trimEnd (u ++ es.flatten) = trimEnd u := by
  induction es generalizing u with
  | nil => simp
  | cons e es ih =>
    have he : e ∈ encodings := h e List.mem_cons_self
    rw [List.flatten_cons, ← List.append_assoc, ih (fun e' h' ↦ h e' (List.mem_cons_of_mem _ h')),
      trimEnd_take_blank he (List.suffix_append _ _), List.length_append, Nat.add_sub_cancel,
      List.take_left]

theorem trim_blanks {es fs : List (List UInt8)} (hes : ∀ e ∈ es, e ∈ encodings)
    (hfs : ∀ e ∈ fs, e ∈ encodings) {u : List UInt8} (hu : ∀ b ∈ u, b ∈ alphabet) :
    trim (es.flatten ++ u ++ fs.flatten) = u := by
  rw [trim, List.append_assoc, trimStart_flatten_append hes]
  cases u with
  | nil =>
    have hnil : trimStart ([] : List UInt8) = [] := trimStart_of_head (by simp)
    have hfront : trimStart fs.flatten = [] := by
      simpa [hnil] using trimStart_flatten_append hfs []
    rw [List.nil_append, hfront, trimEnd_of_getLast (by simp)]
  | cons c u =>
    rw [trimStart_of_head (by simpa using hu c List.mem_cons_self), trimEnd_append_flatten hfs,
      trimEnd_of_getLast (fun b hb ↦ hu b (List.mem_of_getLast? hb))]

theorem trim_spaces_encode {w₁ w₂ : List Char} (h₁ : ∀ c ∈ w₁, IsSpace c)
    (h₂ : ∀ c ∈ w₂, IsSpace c) (bs : List UInt8) :
    trim (Utf8.encodeChars w₁ ++ encode bs ++ Utf8.encodeChars w₂) = encode bs := by
  have hblank : ∀ w : List Char, (∀ c ∈ w, IsSpace c) →
      ∀ e ∈ w.map String.utf8EncodeChar, e ∈ encodings := by
    intro w hw e he
    obtain ⟨c, hc, rfl⟩ := List.mem_map.mp he
    exact utf8EncodeChar_mem (hw c hc)
  rw [Utf8.encodeChars, Utf8.encodeChars, List.flatMap_def, List.flatMap_def]
  exact trim_blanks (hblank w₁ h₁) (hblank w₂ h₂) (fun b hb ↦ mem_encode hb)

end Text.Blank

namespace Cli

theorem transform_stdin {env : Environment} (f : List UInt8 → Except Error (List UInt8))
    {data out : List UInt8} (hs : env.stdin = .ok data) (hf : f data = .ok out) :
    (transform env f []).2 = .ok [out] := by
  simp [transform, fromStdin, hs, hf]

theorem run_encode_stdin (flags : Flags) (env : Environment) (bs : List UInt8)
    (hs : env.stdin = .ok bs) :
    (Invocation.run ⟨flags, .encode []⟩ env).writes = [encode bs ++ [0x0A]] ∧
      (Invocation.run ⟨flags, .encode []⟩ env).ending = .ok () := by
  have ht := transform_stdin (fun data ↦ .ok (encode data)) hs rfl
  simp only [Invocation.run, encodeRun]
  rw [ht]
  exact ⟨rfl, rfl⟩

theorem run_decode_stdin (flags : Flags) (newline : Bool) (env : Environment)
    {data bs : List UInt8} (hs : env.stdin = .ok data)
    (hd : (codecOf flags).1.decode (Text.Blank.trim data) = .ok bs) :
    (Invocation.run ⟨flags, .decode newline []⟩ env).writes =
        [if newline then bs ++ [0x0A] else bs] ∧
      (Invocation.run ⟨flags, .decode newline []⟩ env).ending = .ok () := by
  have ht := transform_stdin (fun data ↦ (codecOf flags).1.decode (Text.Blank.trim data)) hs hd
  simp only [Invocation.run, decodeRun]
  rw [ht]
  exact ⟨rfl, rfl⟩

end Cli

open Cli in
/-- On a single input, `decode` undoes `encode`, with or without `--strict`: `encode` writes the
text of the standard input and a line feed, and `decode`, given that text with blank characters
on either side, writes the bytes back, followed by a line feed with `--newline`. Both succeed. -/
theorem encode_decode_commands (flags : Flags) (bs : List UInt8) :
    (∀ env : Environment, env.stdin = .ok bs →
      (Invocation.run ⟨flags, .encode []⟩ env).writes = [encode bs ++ [0x0A]] ∧
        (Invocation.run ⟨flags, .encode []⟩ env).ending = .ok ()) ∧
    ∀ (newline : Bool) (w₁ w₂ : List Char) (env : Environment),
      (∀ c ∈ w₁, Text.Blank.IsSpace c) → (∀ c ∈ w₂, Text.Blank.IsSpace c) →
      env.stdin = .ok (Text.Utf8.encodeChars w₁ ++ encode bs ++ Text.Utf8.encodeChars w₂) →
      (Invocation.run ⟨flags, .decode newline []⟩ env).writes =
          [if newline then bs ++ [0x0A] else bs] ∧
        (Invocation.run ⟨flags, .decode newline []⟩ env).ending = .ok () := by
  refine ⟨fun env hs ↦ run_encode_stdin flags env bs hs, fun newline w₁ w₂ env h₁ h₂ hs ↦ ?_⟩
  have hd : (codecOf flags).1.decode (Text.Blank.trim
      (Text.Utf8.encodeChars w₁ ++ encode bs ++ Text.Utf8.encodeChars w₂)) = .ok bs := by
    rw [Text.Blank.trim_spaces_encode h₁ h₂]
    exact Codec.decode_encode_self _ bs
  exact run_decode_stdin flags newline env hs hd

end Z85
