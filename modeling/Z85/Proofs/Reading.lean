import Z85.Buffer
import Z85.Proofs.Rejection

namespace Z85

theorem overwrite_after_prefix {p d cs : List UInt8} {n : Nat} (h : p.length = n) (k : Nat) :
    (p ++ d).take n ++ cs ++ (p ++ d).drop (n + k) = p ++ cs ++ d.drop k := by
  subst h
  rw [List.take_left, List.drop_append, List.drop_of_length_le (by omega), Nat.add_sub_cancel_left,
    List.nil_append]

theorem length_words (l : List (List UInt8)) :
    ((l.map number).flatMap Word.bytes).length = 4 * l.length := by
  simp [List.length_flatMap, Function.comp_def, Nat.mul_comm]

theorem take_framesOf_succ {s : List UInt8} {f : Nat} (hf : f < s.length / 5) :
    (framesOf s).take (f + 1) = (framesOf s).take f ++ [frameAt s f] := by
  rw [List.take_add_one, framesOf, List.getElem?_map, List.getElem?_range hf]
  rfl

namespace Reader

theorem readAt_of_accepted {s : List UInt8} {f : Nat} (h : refused (frameAt s f) = false) :
    readAt s (5 * f) = .ok (number (frameAt s f)) := by
  obtain ⟨hall, hlt⟩ := refused_eq_false.mp h
  exact (Frame.read_eq_ok_iff (5 * f) (length_frameAt_le s f) _).mpr ⟨hall, hlt, rfl⟩

/-- Where a run over the window `w` stands after the first `f` frames: the first `4 f` places
hold their words, the others are as they were. -/
def after (w s : List UInt8) (f : Nat) : Writer.Cursor :=
  ⟨(((framesOf s).take f).map number).flatMap Word.bytes ++ w.drop (4 * f), 4 * f, 5 * f⟩

theorem after_zero (w s : List UInt8) : after w s 0 = ⟨w, 0, 0⟩ := by
  simp only [after, List.take_zero, List.map_nil, List.flatMap_nil, List.nil_append,
    Nat.mul_zero, List.drop_zero]

variable {w s : List UInt8}

theorem length_words_after {f : Nat} (hf : f ≤ s.length / 5) :
    ((((framesOf s).take f).map number).flatMap Word.bytes).length = 4 * f := by
  rw [length_words, List.length_take, length_framesOf, Nat.min_eq_left hf]

theorem length_window_after {f : Nat} (hf : f ≤ s.length / 5) (hw : 4 * f ≤ w.length) :
    (after w s f).window.length = w.length := by
  simp only [after, List.length_append, length_words_after hf, List.length_drop]
  omega

theorem frameStep_after {f : Nat} (hf : f < s.length / 5) (hw : 4 * f + 4 ≤ w.length)
    (h : refused (frameAt s f) = false) :
    frameStep s (after w s f) = .ok (after w s (f + 1)) := by
  have hwords := length_words_after (s := s) (Nat.le_of_lt hf)
  have hlen := length_window_after (w := w) (Nat.le_of_lt hf) (by omega)
  have hnext : after w s (f + 1) = ⟨(((framesOf s).take f).map number).flatMap Word.bytes ++
      Word.bytes (number (frameAt s f)) ++ w.drop (4 * f + 4), 4 * f + 4, 5 * f + 5⟩ := by
    simp only [after, take_framesOf_succ hf, List.map_append, List.flatMap_append, List.map_cons,
      List.map_nil, List.flatMap_cons, List.flatMap_nil, List.append_nil, Nat.mul_succ]
  rw [frameStep_of_ok (c := after w s f) (readAt_of_accepted h), hnext]
  simp only [after] at hlen ⊢
  rw [copyAt_of_le (by rw [hlen, Word.length_bytes]; omega), Word.length_bytes,
    overwrite_after_prefix hwords, List.drop_drop]

theorem frameLoop_after {k : Nat} :
    ∀ f, f + k ≤ s.length / 5 → 4 * (f + k) ≤ w.length →
      (∀ j, f ≤ j → j < f + k → refused (frameAt s j) = false) →
      frameLoop s k (after w s f) = .ok (after w s (f + k)) := by
  induction k with
  | zero => intro f _ _ _; rfl
  | succ k ih =>
    intro f hf hw h
    rw [frameLoop_succ, frameStep_after (by omega) (by omega) (h f (Nat.le_refl f) (by omega))]
    dsimp only [bind, Except.bind]
    rw [ih (f + 1) (by omega) (by omega) (fun j hj hj' ↦ h j (by omega) (by omega)),
      Nat.add_right_comm, Nat.add_assoc]

theorem frameLoop_after_error {f₀ : Nat} {e : Error}
    (he : Frame.read (5 * f₀) (frameAt s f₀) = .error e)
    (hbefore : ∀ j < f₀, refused (frameAt s j) = false) (hf₀ : f₀ < s.length / 5)
    (hw : 4 * f₀ ≤ w.length) {k : Nat} :
    ∀ f, f ≤ f₀ → f₀ < f + k → frameLoop s k (after w s f) = .error e := by
  induction k with
  | zero => intro f h1 h2; omega
  | succ k ih =>
    intro f h1 h2
    rw [frameLoop_succ]
    by_cases hf : f = f₀
    · subst hf
      rw [frameStep_of_error (c := after w s f) he]
      rfl
    · rw [frameStep_after (by omega) (by omega) (hbefore f (by omega))]
      exact ih (f + 1) (by omega) (by omega)

theorem copyAt_last {p : Nat} (hF : 0 < s.length / 5) (hp : p < 4)
    (hw : w.length = 4 * (s.length / 5) - p) :
    copyAt (after w s (s.length / 5 - 1)).window (after w s (s.length / 5 - 1)).wrote
        ((Word.bytes (number (frameAt s (s.length / 5 - 1)))).take (4 - p)) =
      (((framesOf s).map number).flatMap Word.bytes).take (4 * (s.length / 5) - p) := by
  have hwords := length_words_after (s := s) (f := s.length / 5 - 1) (by omega)
  have hlen := length_window_after (w := w) (s := s) (f := s.length / 5 - 1) (by omega) (by omega)
  have hrest : (w.drop (4 * (s.length / 5 - 1))).drop (4 - p) = [] :=
    List.drop_of_length_le (by rw [List.length_drop]; omega)
  have hall : framesOf s = (framesOf s).take (s.length / 5 - 1) ++ [frameAt s (s.length / 5 - 1)] := by
    rw [← take_framesOf_succ (by omega), Nat.sub_add_cancel hF,
      List.take_of_length_le (by rw [length_framesOf])]
  simp only [after] at hlen ⊢
  rw [copyAt_of_le (by rw [hlen, List.length_take, Word.length_bytes]; omega), List.length_take,
    Word.length_bytes, Nat.min_eq_left (by omega), overwrite_after_prefix hwords, hrest,
    List.append_nil]
  conv => rhs; rw [hall]
  rw [List.map_append, List.flatMap_append, List.take_append,
    List.take_of_length_le (show ((((framesOf s).take (s.length / 5 - 1)).map number).flatMap
      Word.bytes).length ≤ 4 * (s.length / 5) - p by rw [hwords]; omega), hwords]
  simp only [List.map_cons, List.map_nil, List.flatMap_cons, List.flatMap_nil, List.append_nil]
  congr 2
  omega

theorem frames_of_refused {strict : Bool} {p : Nat} (hp : p < 4)
    (hw : w.length = 4 * (s.length / 5) - p) {f₀ : Nat} {e : Error} (hf₀ : f₀ < s.length / 5)
    (hb : ∀ j < f₀, refused (frameAt s j) = false)
    (he : Frame.read (5 * f₀) (frameAt s f₀) = .error e) :
    (frameLoop s (s.length / 5 - 1) (after w s 0) >>= tailStep strict p s) = .error e := by
  by_cases hlast : f₀ < s.length / 5 - 1
  · rw [frameLoop_after_error he hb hf₀ (by omega) 0 (Nat.zero_le _) (by omega)]
    rfl
  · have hf : f₀ = s.length / 5 - 1 := by omega
    subst hf
    rw [frameLoop_after 0 (by omega) (by omega) (fun j _ hj ↦ hb j (by omega)), Nat.zero_add]
    exact tailStep_of_error (c := after w s (s.length / 5 - 1)) he

theorem frames_of_accepted {strict : Bool} {p : Nat} (hF : 0 < s.length / 5) (hp : p < 4)
    (hw : w.length = 4 * (s.length / 5) - p)
    (hacc : ∀ j < s.length / 5, refused (frameAt s j) = false) :
    (frameLoop s (s.length / 5 - 1) (after w s 0) >>= tailStep strict p s) =
      if strict ∧ paddingClear p (number (frameAt s (s.length / 5 - 1))) = false then
        .error .nonZeroPadding
      else .ok ((((framesOf s).map number).flatMap Word.bytes).take (4 * (s.length / 5) - p)) := by
  rw [frameLoop_after 0 (by omega) (by omega) (fun j _ hj ↦ hacc j (by omega)), Nat.zero_add]
  dsimp only [bind, Except.bind]
  rw [tailStep_of_ok (c := after w s (s.length / 5 - 1)) (readAt_of_accepted (hacc _ (by omega))),
    copyAt_last hF hp hw]

/-- A run over a window as long as the bytes of the text writes every place of it: it gives what
reading the text gives, whatever the window held. -/
theorem run_eq_read {strict : Bool} {sh : Shape} (hsh : Shape.ofText strict s = .ok sh)
    (hw : w.length = sh.size) : run sh strict w s = sh.read strict s := by
  obtain ⟨hframes, -⟩ := (Shape.ofText_eq_ok_iff strict s sh).mp hsh
  have hp := sh.padding_lt
  have hsize : sh.size = 4 * (s.length / 5) - sh.padding := by
    rw [Shape.size, hframes, Nat.mul_comm]
  rw [hsize] at hw
  rw [run, Shape.read, hframes]
  by_cases h0 : s.length / 5 = 0
  · have hnil : w = [] := List.eq_nil_of_length_eq_zero (by omega)
    rw [if_pos h0, hnil, readFrames_of_length_lt 0 (by omega)]
    simp [(paddingClear_iff 0 hp).mpr (Nat.zero_mod _)]
  have hF : 0 < s.length / 5 := Nat.pos_of_ne_zero h0
  rw [if_neg h0, ← after_zero w s]
  cases hfind : (List.range (s.length / 5)).find? (fun f ↦ refused (frameAt s f)) with
  | some f₀ =>
    obtain ⟨e, he, hread⟩ := readFrames_of_find? hfind 0
    obtain ⟨-, hlt, hbefore⟩ := List.find?_range_eq_some.mp hfind
    rw [Nat.zero_add] at he
    rw [hread, frames_of_refused hp hw (List.mem_range.mp hlt)
      (fun j hj ↦ by simpa using hbefore j hj) he]
  | none =>
    have hacc : ∀ j < s.length / 5, refused (frameAt s j) = false := fun j hj ↦ by
      simpa using List.find?_range_eq_none.mp hfind j hj
    rw [frames_of_accepted hF hp hw hacc, readFrames_of_find?_none hfind 0]
    dsimp only
    rw [getLastD_map_number, getLastD_framesOf hF, hsize]

end Reader

namespace Codec

variable {c : Codec} {dst s : List UInt8}

theorem decodeInto_of_ofText_error {e : Error} (h : Shape.ofText c.strict s = .error e) :
    c.decodeInto dst s = ⟨.error e, dst⟩ := by
  rw [decodeInto, h]

theorem decodeInto_of_lt {sh : Shape} (h : Shape.ofText c.strict s = .ok sh)
    (hlt : dst.length < sh.size) :
    c.decodeInto dst s = ⟨.error (.shortBuffer sh.size dst.length), dst⟩ := by
  rw [decodeInto, h]
  dsimp only
  rw [if_pos hlt]

theorem decodeInto_of_read_ok {sh : Shape} {bs : List UInt8} (h : Shape.ofText c.strict s = .ok sh)
    (hle : sh.size ≤ dst.length) (hr : sh.read c.strict s = .ok bs) :
    c.decodeInto dst s = ⟨.ok sh.size, bs ++ dst.drop sh.size⟩ := by
  rw [decodeInto, h]
  dsimp only
  rw [if_neg (Nat.not_lt.mpr hle),
    Reader.run_eq_read h (by rw [List.length_take, Nat.min_eq_left hle]), hr]

theorem decodeInto_of_read_error {sh : Shape} {e : Error} (h : Shape.ofText c.strict s = .ok sh)
    (hle : sh.size ≤ dst.length) (hr : sh.read c.strict s = .error e) :
    c.decodeInto dst s = ⟨.error e, List.replicate sh.size 0 ++ dst.drop sh.size⟩ := by
  rw [decodeInto, h]
  dsimp only
  rw [if_neg (Nat.not_lt.mpr hle),
    Reader.run_eq_read h (by rw [List.length_take, Nat.min_eq_left hle]), hr]

end Codec

end Z85
