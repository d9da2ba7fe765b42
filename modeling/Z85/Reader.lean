import Z85.Decode
import Z85.Writer

namespace Z85.Reader

/-- `cs` copied over the places of `w` from `pos` on, as far as `w` reaches. -/
def copyAt (w : List UInt8) (pos : Nat) (cs : List UInt8) : List UInt8 :=
  w.take pos ++ cs.take (w.length - pos) ++ w.drop (pos + cs.length)

def readAt (s : List UInt8) (pos : Nat) : Except Error Nat :=
  Frame.read pos ((s.drop pos).take 5)

def frameStep (s : List UInt8) (c : Writer.Cursor) : Except Error Writer.Cursor := do
  let v ← readAt s c.read
  pure ⟨copyAt c.window c.wrote (Word.bytes v), c.wrote + 4, c.read + 5⟩

def frameLoop (s : List UInt8) : Nat → Writer.Cursor → Except Error Writer.Cursor
  | 0, c => .ok c
  | n + 1, c => frameStep s c >>= frameLoop s n

def tailStep (strict : Bool) (padding : Nat) (s : List UInt8) (c : Writer.Cursor) :
    Except Error (List UInt8) := do
  let v ← readAt s c.read
  if strict ∧ paddingClear padding v = false then .error .nonZeroPadding
  else pure (copyAt c.window c.wrote ((Word.bytes v).take (4 - padding)))

/-- Reads the text `s` of shape `sh` into the window `w` in place: the word of each frame before
the last over the next four places, then the last frame's word less its padding octets. -/
def run (sh : Shape) (strict : Bool) (w s : List UInt8) : Except Error (List UInt8) :=
  if sh.frames = 0 then .ok w
  else frameLoop s (sh.frames - 1) ⟨w, 0, 0⟩ >>= tailStep strict sh.padding s

theorem copyAt_of_le {w cs : List UInt8} {pos : Nat} (h : pos + cs.length ≤ w.length) :
    copyAt w pos cs = w.take pos ++ cs ++ w.drop (pos + cs.length) := by
  rw [copyAt, List.take_of_length_le (show cs.length ≤ w.length - pos by omega)]

theorem frameStep_of_ok {s : List UInt8} {c : Writer.Cursor} {v : Nat}
    (h : readAt s c.read = .ok v) :
    frameStep s c = .ok ⟨copyAt c.window c.wrote (Word.bytes v), c.wrote + 4, c.read + 5⟩ := by
  rw [frameStep, h]
  rfl

theorem frameStep_of_error {s : List UInt8} {c : Writer.Cursor} {e : Error}
    (h : readAt s c.read = .error e) : frameStep s c = .error e := by
  rw [frameStep, h]
  rfl

theorem frameLoop_succ (s : List UInt8) (n : Nat) (c : Writer.Cursor) :
    frameLoop s (n + 1) c = frameStep s c >>= frameLoop s n :=
  rfl

theorem tailStep_of_error {strict : Bool} {padding : Nat} {s : List UInt8} {c : Writer.Cursor}
    {e : Error} (h : readAt s c.read = .error e) : tailStep strict padding s c = .error e := by
  rw [tailStep, h]
  rfl

theorem tailStep_of_ok {strict : Bool} {padding : Nat} {s : List UInt8} {c : Writer.Cursor}
    {v : Nat} (h : readAt s c.read = .ok v) :
    tailStep strict padding s c =
      if strict ∧ paddingClear padding v = false then .error .nonZeroPadding
      else .ok (copyAt c.window c.wrote ((Word.bytes v).take (4 - padding))) := by
  rw [tailStep, h]
  rfl

end Z85.Reader
