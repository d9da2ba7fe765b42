namespace Z85.Cli

structure Flags where
  debug : Bool := false
  quiet : Bool := false
  strict : Bool := false
  deriving DecidableEq, Repr

inductive Command where
  | encode (paths : List String)
  | decode (newline : Bool) (paths : List String)
  | check (texts : List String)
  | keygen (hex : Bool)
  deriving DecidableEq, Repr

/-- A parsed command line. -/
structure Invocation where
  flags : Flags
  command : Command
  deriving DecidableEq, Repr

namespace Invocation

def parseFlags (flags : Flags) : List String → Flags × List String
  | "--debug" :: rest => parseFlags { flags with debug := true } rest
  | "--quiet" :: rest => parseFlags { flags with quiet := true } rest
  | "--strict" :: rest => parseFlags { flags with strict := true } rest
  | rest => (flags, rest)

def isOperand (arg : String) : Bool :=
  !arg.startsWith "-"

def operands (args : List String) : Option (List String) :=
  if args.all isOperand then some args else none

def parseCommand : List String → Option Command
  | "encode" :: rest => (operands rest).map .encode
  | "decode" :: "--newline" :: rest => (operands rest).map (.decode true)
  | "decode" :: rest => (operands rest).map (.decode false)
  | "check" :: rest => (operands rest).map .check
  | ["keygen"] => some (.keygen false)
  | ["keygen", "--hex"] => some (.keygen true)
  | _ => none

/-- The invocation of a command line, if it is one. -/
def parse (args : List String) : Option Invocation :=
  let (flags, rest) := parseFlags {} args
  (parseCommand rest).map (⟨flags, ·⟩)

end Invocation

end Z85.Cli
