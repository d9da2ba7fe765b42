import Z85.Encode

namespace Z85.Writer

/-- Why a run of the writer stops. -/
inductive Fault where
  | sliceEnd (high length : Nat)
  | sliceStart (low length : Nat)
  | index (index length : Nat)
  | unplanned (wrote planned : Nat)
  deriving DecidableEq, Repr

def Fault.message : Fault → String
  | sliceEnd high length =>
    "runtime error: slice bounds out of range [:" ++ toString high ++ "] with capacity " ++
      toString length
  | sliceStart low length =>
    "runtime error: slice bounds out of range [" ++ toString low ++ ":" ++ toString length ++ "]"
  | index i length =>
    "runtime error: index out of range [" ++ toString i ++ "] with length " ++ toString length
  | unplanned wrote planned =>
    "z85: wrote " ++ toString wrote ++ " bytes, planned " ++ toString planned

/-- Where a run stands: the window so far, the count of places written, which is the next place
to write, and the count of source bytes read, which is the next byte to read. -/
structure Cursor where
  window : List UInt8
  wrote : Nat
  read : Nat
  deriving DecidableEq, Repr

def readWord (src : List UInt8) (pos : Nat) : Except Fault Nat :=
  if pos + 4 ≤ src.length then .ok (Word.value ((src.drop pos).take 4))
  else .error (.sliceEnd (pos + 4) src.length)

def readTail (src : List UInt8) (pos : Nat) : Except Fault Nat :=
  if pos ≤ src.length then .ok (Word.value ((src.drop pos ++ List.replicate 4 0).take 4))
  else .error (.sliceStart pos src.length)

def put (w : List UInt8) (pos : Nat) (cs : List UInt8) : Except Fault (List UInt8) :=
  if pos + cs.length ≤ w.length then .ok (w.take pos ++ cs ++ w.drop (pos + cs.length))
  else .error (.sliceEnd (pos + cs.length) w.length)

def poke (w : List UInt8) (i : Nat) (b : UInt8) : Except Fault (List UInt8) :=
  if i < w.length then .ok (w.set i b) else .error (.index i w.length)

def frameStep (src : List UInt8) (c : Cursor) : Except Fault Cursor := do
  let v ← readWord src c.read
  let w ← put c.window c.wrote (Frame.write v)
  pure ⟨w, c.wrote + 5, c.read + 4⟩

def frameLoop (src : List UInt8) : Nat → Cursor → Except Fault Cursor
  | 0, c => .ok c
  | n + 1, c => frameStep src c >>= frameLoop src n

def tailStep (src : List UInt8) (r : Nat) (c : Cursor) : Except Fault Cursor := do
  let v ← readTail src c.read
  let w ← put c.window c.wrote (Frame.write v)
  let w ← poke w (c.wrote + 5) (digitByte (4 - r))
  pure ⟨w, c.wrote + 6, c.read⟩

/-- Writes the text of `src` over the window `w`: the whole groups, then the last short group if
there is one, and a check that the count of places written is the planned one. -/
def run (w src : List UInt8) : Except Fault (List UInt8) := do
  let c ← frameLoop src (src.length / 4) ⟨w, 0, 0⟩
  let c ← if 0 < src.length % 4 then tailStep src (src.length % 4) c else pure c
  if c.wrote = textLength src.length then pure c.window
  else throw (.unplanned c.wrote (textLength src.length))

theorem readWord_of_le {src : List UInt8} {pos : Nat} (h : pos + 4 ≤ src.length) :
    readWord src pos = .ok (Word.value ((src.drop pos).take 4)) :=
  if_pos h

theorem readTail_of_le {src : List UInt8} {pos : Nat} (h : pos ≤ src.length) :
    readTail src pos = .ok (Word.value ((src.drop pos ++ List.replicate 4 0).take 4)) :=
  if_pos h

theorem put_of_le {w cs : List UInt8} {pos : Nat} (h : pos + cs.length ≤ w.length) :
    put w pos cs = .ok (w.take pos ++ cs ++ w.drop (pos + cs.length)) :=
  if_pos h

theorem poke_of_lt {w : List UInt8} {i : Nat} {b : UInt8} (h : i < w.length) :
    poke w i b = .ok (w.set i b) :=
  if_pos h

theorem frameLoop_succ (src : List UInt8) (n : Nat) (c : Cursor) :
    frameLoop src (n + 1) c = frameStep src c >>= frameLoop src n :=
  rfl

theorem frameStep_eq {src : List UInt8} {c : Cursor} (hr : c.read + 4 ≤ src.length)
    (hw : c.wrote + 5 ≤ c.window.length) :
    frameStep src c = .ok ⟨c.window.take c.wrote ++
      Frame.write (Word.value ((src.drop c.read).take 4)) ++ c.window.drop (c.wrote + 5),
      c.wrote + 5, c.read + 4⟩ := by
  rw [frameStep, readWord_of_le hr]
  dsimp only [bind, Except.bind]
  rw [put_of_le (by rw [Frame.length_write]; exact hw), Frame.length_write]
  rfl

theorem tailStep_eq {src : List UInt8} {r : Nat} {c : Cursor} (hr : c.read ≤ src.length)
    (hw : c.wrote + 6 ≤ c.window.length) :
    tailStep src r c = .ok ⟨c.window.take c.wrote ++
      (Frame.write (Word.value ((src.drop c.read ++ List.replicate 4 0).take 4)) ++
        [digitByte (4 - r)]) ++ c.window.drop (c.wrote + 6), c.wrote + 6, c.read⟩ := by
  have hfront : (c.window.take c.wrote ++
      Frame.write (Word.value ((src.drop c.read ++ List.replicate 4 0).take 4))).length =
      c.wrote + 5 := by
    rw [List.length_append, List.length_take, Frame.length_write]
    omega
  have hnext : c.window.drop (c.wrote + 5) =
      c.window[c.wrote + 5] :: c.window.drop (c.wrote + 6) :=
    List.drop_eq_getElem_cons (by omega)
  rw [tailStep, readTail_of_le hr]
  dsimp only [bind, Except.bind]
  rw [put_of_le (by rw [Frame.length_write]; omega), Frame.length_write]
  dsimp only
  rw [poke_of_lt (by rw [List.length_append, hfront, List.length_drop]; omega),
    List.set_append_right _ _ (Nat.le_of_eq hfront), hfront, Nat.sub_self, hnext,
    List.set_cons_zero]
  simp only [List.append_assoc, List.cons_append, List.nil_append]
  rfl

end Z85.Writer
