import Mathlib
import Z85.Decode
import Z85.Encode

namespace Z85

/-- The number that characters write in base 85, most significant first, each character
standing for its index in the alphabet. -/
def number (cs : List UInt8) : Nat :=
  cs.foldl (fun acc c ↦ acc * 85 + alphabet.idxOf c) 0

def frameAt (s : List UInt8) (f : Nat) : List UInt8 :=
  (s.drop (5 * f)).take 5

/-- The whole frames of a text in order; the marker of a padded text is in none of them. -/
def framesOf (s : List UInt8) : List (List UInt8) :=
  (List.range (s.length / 5)).map (frameAt s)

def wordBytes (v : Nat) : List UInt8 :=
  [(v / 16777216).toUInt8, (v / 65536).toUInt8, (v / 256).toUInt8, v.toUInt8]

theorem Word.limit_eq : Word.limit = Nat.pow 2 32 := rfl

theorem digitValue?_eq_some {b : UInt8} {d : Nat} :
    digitValue? b = some d ↔ b ∈ alphabet ∧ alphabet.idxOf b = d := by
  rw [digitValue?_eq_idxOf?, List.idxOf?, List.findIdx?_eq_guard_findIdx_lt, ← List.idxOf,
    Option.guard_eq_some_iff]
  simp only [decide_eq_true_eq, List.idxOf_lt_length_iff]
  exact And.comm

theorem digitValue?_eq_none {b : UInt8} : digitValue? b = none ↔ b ∉ alphabet := by
  rw [digitValue?_eq_idxOf?]
  exact List.idxOf?_eq_none_iff

theorem idxOf_digitByte {d : Nat} (h : d < 85) : alphabet.idxOf (digitByte d) = d :=
  (digitValue?_eq_some.mp (digitValue?_digitByte d h)).2

theorem digitByte_idxOf {b : UInt8} (h : b ∈ alphabet) : digitByte (alphabet.idxOf b) = b :=
  (digitByte_of_digitValue? (digitValue?_eq_some.mpr ⟨h, rfl⟩)).2

theorem idxOf_lt_of_mem {cs : List UInt8} (h : ∀ c ∈ cs, c ∈ alphabet) :
    ∀ d ∈ cs.map alphabet.idxOf, d < 85 := by
  intro d hd
  obtain ⟨c, hc, rfl⟩ := List.mem_map.mp hd
  exact length_alphabet ▸ List.idxOf_lt_length_of_mem (h c hc)

theorem number_eq_value (cs : List UInt8) :
    number cs = Positional.value 85 (cs.map alphabet.idxOf) := by
  simp only [number, Positional.value, List.foldl_map]

theorem wordBytes_eq_bytes (v : Nat) : wordBytes v = Word.bytes v := by
  simp only [wordBytes, Word.bytes, Positional.digits, Nat.div_div_eq_div_mul, List.nil_append,
    List.cons_append, List.map_cons, List.map_nil, Nat.toUInt8, UInt8.ofNat_mod_size']

theorem getLastD_map_number (l : List (List UInt8)) :
    (l.map number).getLastD 0 = number (l.getLastD []) :=
  List.getLastD_map (f := number) (a := [])

@[simp] theorem length_wordBytes (v : Nat) : (wordBytes v).length = 4 := rfl

namespace Frame

theorem write_mem {v : Nat} {c : UInt8} (h : c ∈ write v) : c ∈ alphabet := by
  obtain ⟨d, hd, rfl⟩ := List.mem_map.mp h
  exact digitByte_mem (Positional.digits_lt 85 5 v (by decide) d hd)

theorem write_number {cs : List UInt8} (hl : cs.length = 5) (hc : ∀ c ∈ cs, c ∈ alphabet) :
    write (number cs) = cs := by
  have hv := Positional.digits_value 85 (cs.map alphabet.idxOf) (idxOf_lt_of_mem hc)
  rw [List.length_map, hl] at hv
  rw [write, number_eq_value, hv, List.map_map]
  conv => rhs; rw [← List.map_id cs]
  exact List.map_congr_left (fun c hc' ↦ digitByte_idxOf (hc c hc'))

theorem digitsAt_eq_ok_iff (pos : Nat) (cs : List UInt8) (ds : List Nat) :
    digitsAt pos cs = .ok ds ↔ (∀ c ∈ cs, c ∈ alphabet) ∧ ds = cs.map alphabet.idxOf := by
  induction cs generalizing pos ds with
  | nil => simp [digitsAt, eq_comm]
  | cons c cs ih =>
    cases h : digitValue? c with
    | none =>
      have hc : c ∉ alphabet := digitValue?_eq_none.mp h
      simp [digitsAt, h, hc]
    | some d =>
      obtain ⟨hc, rfl⟩ := digitValue?_eq_some.mp h
      cases hr : digitsAt (pos + 1) cs with
      | error e =>
        have hn : ¬∀ c ∈ cs, c ∈ alphabet := fun hall ↦ by
          have h' := (ih (pos + 1) _).mpr ⟨hall, rfl⟩
          rw [hr] at h'
          cases h'
        simp [digitsAt, h, hr, Except.map, hn]
      | ok es =>
        obtain ⟨hall, rfl⟩ := (ih (pos + 1) es).mp hr
        simp only [digitsAt, h, hr, Except.map, Except.ok.injEq, List.forall_mem_cons,
          List.map_cons]
        exact ⟨fun h' ↦ ⟨⟨hc, hall⟩, h'.symm⟩, fun h' ↦ h'.2.symm⟩

theorem digitsAt_of_mem (pos : Nat) {cs : List UInt8} (h : ∀ c ∈ cs, c ∈ alphabet) :
    digitsAt pos cs = .ok (cs.map alphabet.idxOf) :=
  (digitsAt_eq_ok_iff pos cs _).mpr ⟨h, rfl⟩

theorem digitsAt_of_not_mem (pos : Nat) {cs : List UInt8} (h : cs.any (· ∉ alphabet)) :
    digitsAt pos cs = .error (.badCharacter (cs.getD (cs.findIdx (· ∉ alphabet)) 0)
      (pos + cs.findIdx (· ∉ alphabet))) := by
  induction cs generalizing pos with
  | nil => simp at h
  | cons c cs ih =>
    by_cases hc : c ∈ alphabet
    · have hcs : cs.any (· ∉ alphabet) := by simpa [hc] using h
      have hd : digitValue? c = some (alphabet.idxOf c) := digitValue?_eq_some.mpr ⟨hc, rfl⟩
      rw [digitsAt, hd, ih (pos + 1) hcs, List.findIdx_cons]
      simp only [hc, not_true_eq_false, decide_false, cond_false, List.getD_cons_succ,
        Except.map]
      rw [Nat.add_right_comm, Nat.add_assoc]
    · have hd : digitValue? c = none := digitValue?_eq_none.mpr hc
      simp [digitsAt, hd, hc, List.findIdx_cons]

theorem read_of_mem (pos : Nat) {cs : List UInt8} (hl : cs.length ≤ 5)
    (h : ∀ c ∈ cs, c ∈ alphabet) :
    read pos cs =
      if number cs < Word.limit then .ok (number cs) else .error (.overflow pos) := by
  rw [read_eq_value pos hl, digitsAt_of_mem pos h, number_eq_value]

theorem read_eq_ok_iff (pos : Nat) {cs : List UInt8} (hl : cs.length ≤ 5) (v : Nat) :
    read pos cs = .ok v ↔
      (∀ c ∈ cs, c ∈ alphabet) ∧ number cs < Word.limit ∧ v = number cs := by
  by_cases hall : ∀ c ∈ cs, c ∈ alphabet
  · rw [read_of_mem pos hl hall]
    by_cases hlt : number cs < Word.limit
    · rw [if_pos hlt, Except.ok.injEq]
      exact ⟨fun h ↦ ⟨hall, hlt, h.symm⟩, fun h ↦ h.2.2.symm⟩
    · simp [hlt]
  · have hany : cs.any (· ∉ alphabet) := by simpa using hall
    simp [read, digitsAt_of_not_mem pos hany, hall]

theorem read_of_not_mem (pos : Nat) {cs : List UInt8} (h : cs.any (· ∉ alphabet)) :
    read pos cs = .error (.badCharacter (cs.getD (cs.findIdx (· ∉ alphabet)) 0)
      (pos + cs.findIdx (· ∉ alphabet))) := by
  rw [read, digitsAt_of_not_mem pos h]

theorem read_of_le (pos : Nat) {cs : List UInt8} (hl : cs.length ≤ 5)
    (h : ∀ c ∈ cs, c ∈ alphabet) (hle : Word.limit ≤ number cs) :
    read pos cs = .error (.overflow pos) := by
  rw [read_of_mem pos hl h, if_neg (Nat.not_lt.mpr hle)]

end Frame

theorem frames_induction {motive : List UInt8 → Prop} (short : ∀ t, t.length < 5 → motive t)
    (cons : ∀ c0 c1 c2 c3 c4 rest, motive rest → motive (c0 :: c1 :: c2 :: c3 :: c4 :: rest)) :
    ∀ s, motive s
  | c0 :: c1 :: c2 :: c3 :: c4 :: rest =>
    cons c0 c1 c2 c3 c4 rest (frames_induction short cons rest)
  | [] => short [] (by simp)
  | [c0] => short [c0] (by simp)
  | [c0, c1] => short [c0, c1] (by simp)
  | [c0, c1, c2] => short [c0, c1, c2] (by simp)
  | [c0, c1, c2, c3] => short [c0, c1, c2, c3] (by simp)

theorem length_frameAt_le (s : List UInt8) (f : Nat) : (frameAt s f).length ≤ 5 :=
  List.length_take_le 5 _

@[simp] theorem length_framesOf (s : List UInt8) : (framesOf s).length = s.length / 5 := by
  simp [framesOf]

theorem framesOf_of_length_lt {s : List UInt8} (h : s.length < 5) : framesOf s = [] := by
  simp [framesOf, Nat.div_eq_of_lt h]

theorem frameAt_cons_zero (c0 c1 c2 c3 c4 : UInt8) (rest : List UInt8) :
    frameAt (c0 :: c1 :: c2 :: c3 :: c4 :: rest) 0 = [c0, c1, c2, c3, c4] := rfl

theorem frameAt_cons_succ (c0 c1 c2 c3 c4 : UInt8) (rest : List UInt8) (f : Nat) :
    frameAt (c0 :: c1 :: c2 :: c3 :: c4 :: rest) (f + 1) = frameAt rest f := by
  simp [frameAt, Nat.mul_succ]

theorem framesOf_cons (c0 c1 c2 c3 c4 : UInt8) (rest : List UInt8) :
    framesOf (c0 :: c1 :: c2 :: c3 :: c4 :: rest) = [c0, c1, c2, c3, c4] :: framesOf rest := by
  have hk : (rest.length + 1 + 1 + 1 + 1 + 1) / 5 = rest.length / 5 + 1 := by omega
  simp only [framesOf, List.length_cons, hk, List.range_succ_eq_map, List.map_cons, List.map_map]
  congr 1

theorem frame_length {s cs : List UInt8} (h : cs ∈ framesOf s) : cs.length = 5 := by
  obtain ⟨f, hf, rfl⟩ := List.mem_map.mp h
  have hf' : f < s.length / 5 := List.mem_range.mp hf
  simp only [frameAt, List.length_take, List.length_drop]
  omega

theorem flatten_framesOf (s : List UInt8) : (framesOf s).flatten = s.take (5 * (s.length / 5)) := by
  induction s using frames_induction with
  | short t ht => simp [framesOf_of_length_lt ht, Nat.div_eq_of_lt ht]
  | cons c0 c1 c2 c3 c4 rest ih =>
    have hk : 5 * ((rest.length + 1 + 1 + 1 + 1 + 1) / 5) =
        5 * (rest.length / 5) + 1 + 1 + 1 + 1 + 1 := by omega
    simp only [framesOf_cons, List.flatten_cons, ih, List.length_cons, hk, List.take_succ_cons,
      List.cons_append, List.nil_append]

theorem readFrames_of_length_lt (pos : Nat) {t : List UInt8} (h : t.length < 5) :
    readFrames pos t = .ok [] := by
  match t, h with
  | [], _ | [_], _ | [_, _], _ | [_, _, _], _ | [_, _, _, _], _ => rfl
  | _ :: _ :: _ :: _ :: _ :: _, h =>
    simp only [List.length_cons] at h
    omega

theorem lastFrame_of_length_lt (pos last : Nat) {t : List UInt8} (h : t.length < 5) :
    lastFrame pos last t = .ok last := by
  match t, h with
  | [], _ | [_], _ | [_, _], _ | [_, _, _], _ | [_, _, _, _], _ => rfl
  | _ :: _ :: _ :: _ :: _ :: _, h =>
    simp only [List.length_cons] at h
    omega

theorem readFrames_eq_ok_iff (pos : Nat) (s : List UInt8) (vs : List Nat) :
    readFrames pos s = .ok vs ↔
      (∀ cs ∈ framesOf s, (∀ c ∈ cs, c ∈ alphabet) ∧ number cs < Word.limit) ∧
        vs = (framesOf s).map number := by
  induction s using frames_induction generalizing pos vs with
  | short t ht =>
    simp [readFrames_of_length_lt pos ht, framesOf_of_length_lt ht, eq_comm]
  | cons c0 c1 c2 c3 c4 rest ih =>
    rw [readFrames, framesOf_cons, List.forall_mem_cons, List.map_cons]
    cases hr : Frame.read pos [c0, c1, c2, c3, c4] with
    | error e =>
      have hn : ¬((∀ c ∈ [c0, c1, c2, c3, c4], c ∈ alphabet) ∧
          number [c0, c1, c2, c3, c4] < Word.limit) := fun h ↦ by
        rw [(Frame.read_eq_ok_iff pos (by simp) _).mpr ⟨h.1, h.2, rfl⟩] at hr
        cases hr
      simp only [reduceCtorEq, false_iff, not_and]
      exact fun h _ ↦ hn h.1
    | ok v =>
      obtain ⟨hall, hlt, rfl⟩ := (Frame.read_eq_ok_iff pos (by simp) v).mp hr
      cases hrest : readFrames (pos + 5) rest with
      | error e =>
        have hn :
            ¬∀ cs ∈ framesOf rest, (∀ c ∈ cs, c ∈ alphabet) ∧ number cs < Word.limit :=
          fun h ↦ by
            rw [(ih (pos + 5) _).mpr ⟨h, rfl⟩] at hrest
            cases hrest
        simp [Except.map, hn]
      | ok ws =>
        obtain ⟨hok, rfl⟩ := (ih (pos + 5) ws).mp hrest
        simp only [Except.map, Except.ok.injEq]
        exact ⟨fun h ↦ ⟨⟨⟨hall, hlt⟩, hok⟩, h.symm⟩, fun h ↦ h.2.symm⟩

theorem lastFrame_eq (pos last : Nat) (s : List UInt8) :
    lastFrame pos last s = (readFrames pos s).map (·.getLastD last) := by
  induction s using frames_induction generalizing pos last with
  | short t ht =>
    rw [lastFrame_of_length_lt pos last ht, readFrames_of_length_lt pos ht]
    rfl
  | cons c0 c1 c2 c3 c4 rest ih =>
    rw [lastFrame, readFrames]
    cases Frame.read pos [c0, c1, c2, c3, c4] with
    | error e => rfl
    | ok v =>
      simp only [ih]
      cases readFrames (pos + 5) rest <;> simp only [Except.map, List.getLastD_cons]

theorem toUInt8_eq_zero {x : Nat} : x.toUInt8 = 0 ↔ x % 256 = 0 := by
  constructor
  · intro h
    simpa using congrArg UInt8.toNat h
  · intro h
    exact UInt8.toNat_inj.mp (by simp [h])

theorem paddingClear_iff {p : Nat} (v : Nat) (hp : p < 4) :
    paddingClear p v = true ↔ v % Nat.pow 2 (8 * p) = 0 := by
  rw [paddingClear, ← wordBytes_eq_bytes]
  match p, hp with
  | 0, _ => simp [wordBytes, Nat.mod_one]
  | 1, _ => simp [wordBytes, toUInt8_eq_zero]
  | 2, _ =>
    simp [wordBytes, toUInt8_eq_zero]
    omega
  | 3, _ =>
    simp [wordBytes, toUInt8_eq_zero]
    omega

theorem paddingClear_zero (v : Nat) : paddingClear 0 v = true :=
  (paddingClear_iff v (by decide)).mpr (Nat.mod_one v)

end Z85
