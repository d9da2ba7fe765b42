import Std.Time
import Z85.Cli.Process

open Z85 Z85.Cli

partial def readStream (h : IO.FS.Stream) (acc : ByteArray) : IO ByteArray := do
  let chunk ← h.read 65536
  if chunk.isEmpty then return acc else readStream h (acc ++ chunk)

def readStdin : IO (Except String (List UInt8)) := do
  try
    return .ok (← readStream (← IO.getStdin) ByteArray.empty).toList
  catch e =>
    return .error (toString e)

def fileFailure (path : String) : IO.Error → FileError
  | .noFileOrDirectory .. => .notFound path
  | .inappropriateType _ 20 _ => .notDirectory path
  | .inappropriateType _ 21 _ => .isDirectory path
  | e => .failed "open" path (toString e)

/-- The bytes of the file at a path, or why they could not be read. -/
def readPath (path : String) : IO (Except FileError (List UInt8)) := do
  try
    return .ok (← IO.FS.readBinFile path).toList
  catch e =>
    return .error (fileFailure path e)

def randomBytes (n : Nat) : IO (List UInt8) := do
  try
    return (← IO.getRandomBytes n.toUSize).toList
  catch _ =>
    return []

def clock : IO (String × String) := do
  let t ← Std.Time.PlainDateTime.now
  return (dateText t.date.year.toInt.toNat t.date.month.val.toNat t.date.day.val.toNat,
    timeText t.time.hour.val.toNat t.time.minute.val.toNat t.time.second.val.toNat)

def main (args : List String) : IO UInt32 := do
  match Invocation.parse args with
  | none =>
    IO.eprintln ("usage: z85 [--debug] [--quiet] [--strict] " ++
      "(encode|decode [--newline]|check) [operand...] | keygen [--hex]")
    return 1
  | some inv =>
    let stdin ← if inv.command.readsStdin then readStdin else pure (.ok [])
    let files ← inv.command.paths.mapM (fun p ↦ do return (p, ← readPath p))
    let random ← match inv.command with
      | .keygen _ => randomBytes 32
      | _ => pure []
    let env : Environment :=
      { stdin, random,
        fileAt := fun p ↦ ((files.find? (·.1 = p)).map (·.2)).getD (.error (.notFound p)) }
    let (date, time) ← clock
    let x := inv.exit env (fun l ↦ l.stamp date time)
    let out ← IO.getStdout
    out.write (ByteArray.mk x.stdout.toArray)
    out.flush
    IO.eprint x.stderr
    return x.code.toUInt32
