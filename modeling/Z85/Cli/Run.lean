import Z85.Cli.Error
import Z85.Cli.Log

namespace Z85.Cli

/-- Where a command reads from. -/
structure Environment where
  stdin : Except String (List UInt8)
  fileAt : String → Except FileError (List UInt8)
  random : List UInt8
  schedule : List Nat := []

structure Run where
  log : List Entry
  writes : List (List UInt8)
  ending : Except CliError Unit

/-- The standard output as a sink of writes. -/
structure Sink where
  accepts : Option Nat
  failure : String

def Sink.always : Sink :=
  ⟨none, ""⟩

structure Outcome where
  log : List Entry
  written : List (List UInt8)
  result : Except CliError Unit

/-- Performs a run's writes on a sink, in order, up to the first refused write. -/
def Run.deliver (r : Run) (sink : Sink) : Outcome :=
  match sink.accepts with
  | some n =>
    if n < r.writes.length then ⟨r.log, r.writes.take n, .error (.write sink.failure)⟩
    else ⟨r.log, r.writes, r.ending⟩
  | none => ⟨r.log, r.writes, r.ending⟩

def Outcome.stdout (o : Outcome) : List UInt8 :=
  o.written.flatten

end Z85.Cli
