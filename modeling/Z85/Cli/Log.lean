namespace Z85.Cli

/-- How much the log shows, from least to most. -/
inductive Level where
  | error
  | warn
  | info
  | debug
  | trace
  deriving DecidableEq, Repr

namespace Level

def toNat : Level → Nat
  | error => 0
  | warn => 1
  | info => 2
  | debug => 3
  | trace => 4

def ofInt? : Int → Option Level
  | 0 => some error
  | 1 => some warn
  | 2 => some info
  | 3 => some debug
  | 4 => some trace
  | _ => none

def name : Level → String
  | error => "error"
  | warn => "warn"
  | info => "info"
  | debug => "debug"
  | trace => "trace"

def nameOf (n : Int) : String :=
  match ofInt? n with
  | some l => l.name
  | none => "unknown"

def shows (shown l : Level) : Bool :=
  l.toNat ≤ shown.toNat

def ofFlags (debug quiet : Bool) : Level :=
  if debug then .debug else if quiet then .error else .warn

def tag : Level → String
  | error => "\x1b[0;31;1m[error]\t\x1b[0m"
  | warn => "\x1b[0;33m[warn]\t\x1b[0m"
  | info => "\x1b[0;37m[info]\t\x1b[0m"
  | debug => "\x1b[0;36m[debug]\t\x1b[0m"
  | trace => "\x1b[0;35m[trace]\t\x1b[0m"

end Level

inductive Site where
  | levelSet
  | strictCodec
  | stdinRead
  | fileRead
  | fileFailed
  deriving DecidableEq, Repr

def Site.text : Site → String
  | .levelSet => "logging.go:54"
  | .strictCodec => "cli.go:83"
  | .stdinRead => "commands.go:122"
  | .fileRead => "commands.go:147"
  | .fileFailed => "commands.go:150"

/-- An entry of the log. -/
structure Entry where
  level : Level
  site : Site
  text : String
  deriving DecidableEq, Repr

def Entry.render (e : Entry) (stamp : String) : String :=
  e.level.tag ++ stamp ++ e.site.text ++ ": " ++ e.text ++ "\n"

def twoDigits (n : Nat) : String :=
  if n < 10 then "0" ++ toString n else toString n

def dateText (year month day : Nat) : String :=
  toString year ++ "/" ++ twoDigits month ++ "/" ++ twoDigits day

def timeText (hour minute second : Nat) : String :=
  twoDigits hour ++ ":" ++ twoDigits minute ++ ":" ++ twoDigits second

/-- The time text of an entry: the time alone at the debug and trace levels, the date and the
time at the others. -/
def Level.stamp (l : Level) (date time : String) : String :=
  match l with
  | .debug | .trace => time ++ " "
  | _ => date ++ " " ++ time ++ " "

end Z85.Cli
