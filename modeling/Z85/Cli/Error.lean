import Z85.Curve.Pair
import Z85.Cli.Files

namespace Z85.Cli

/-- Why a command failed. -/
inductive CliError where
  | readStdin (reason : String)
  | readLines (reason : String)
  | lineTooLong
  | stdin (e : Error)
  | file (path : String) (e : Error)
  | openFile (e : FileError)
  | write (reason : String)
  | invalid (count total : Nat)
  | generate (e : Curve.GenerateError)
  | cancelled
  deriving DecidableEq, Repr

namespace CliError

def kinds : CliError → List Kind
  | stdin e => [e.kind]
  | file _ e => [e.kind]
  | openFile e => e.kinds
  | generate e => [e.kind]
  | _ => []

def message : CliError → String
  | readStdin reason => "reading stdin: " ++ reason
  | readLines reason => "reading input: " ++ reason
  | lineTooLong => "reading input: bufio.Scanner: token too long"
  | stdin e => "stdin: " ++ e.message
  | file path e => path ++ ": " ++ e.message
  | openFile e => e.message
  | write reason => reason
  | invalid count total =>
    toString count ++ " of " ++ toString total ++ " inputs are not valid Z85"
  | generate e => e.message
  | cancelled => "context canceled"

end CliError

end Z85.Cli
