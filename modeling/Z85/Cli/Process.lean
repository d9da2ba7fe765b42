import Z85.Cli.Commands

namespace Z85.Cli

structure Exit where
  code : Nat
  stdout : List UInt8
  stderr : String

/-- The end of a command with log level `level`; `stamp` gives the time text of a level. -/
def Outcome.exit (o : Outcome) (level : Level) (stamp : Level → String) : Exit :=
  let shown := o.log.filter (fun e ↦ level.shows e.level)
  let logText := String.join (shown.map (fun e ↦ e.render (stamp e.level)))
  match o.result with
  | .ok () => ⟨0, Text.Utf8.bytes logText ++ o.stdout, ""⟩
  | .error e => ⟨1, Text.Utf8.bytes logText ++ o.stdout, "z85: " ++ e.message ++ "\n"⟩

def Invocation.exit (inv : Invocation) (env : Environment) (stamp : Level → String) : Exit :=
  ((inv.run env).deliver Sink.always).exit (Level.ofFlags inv.flags.debug inv.flags.quiet) stamp

end Z85.Cli
