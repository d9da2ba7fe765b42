import Z85.Cli.Run
import Z85.Decode

namespace Z85.Cli

/-- Where a worker is. -/
inductive Phase where
  | waiting
  | running
  | returning (e : CliError)
  | cancelling
  | done
  deriving DecidableEq, Repr

/-- A group of workers: each worker's phase and slot by operand, the failure recorded first,
whether the context is cancelled, and the log. -/
structure Group where
  phases : List Phase
  slots : List (Option (List UInt8))
  failure : Option CliError
  cancelled : Bool
  log : List Entry

/-- Reading and transforming the file at `path`, with the entries it logs: a failure to read is
returned as it is, a failure of `f` after the path. -/
def work (env : Environment) (f : List UInt8 → Except Error (List UInt8)) (path : String) :
    List Entry × Except CliError (List UInt8) :=
  match env.fileAt path with
  | .error e => ([], .error (.openFile e))
  | .ok data =>
    let entry : Entry :=
      ⟨.debug, .fileRead, path ++ ": read " ++ toString data.length ++ " bytes"⟩
    match f data with
    | .error e =>
      ([entry, ⟨.error, .fileFailed, path ++ ": " ++ e.message⟩], .error (.file path e))
    | .ok out => ([entry], .ok out)

namespace Group

def start (n : Nat) : Group :=
  ⟨List.replicate n .waiting, List.replicate n none, none, false, []⟩

/-- Worker `i`, the worker of the operand `paths[i]`, takes its next step. -/
def step (env : Environment) (f : List UInt8 → Except Error (List UInt8)) (paths : List String)
    (g : Group) (i : Nat) : Group :=
  match g.phases[i]?, paths[i]? with
  | some .waiting, _ =>
    { g with phases := g.phases.set i (if g.cancelled then .returning .cancelled else .running) }
  | some .running, some path =>
    match (work env f path).2 with
    | .error e =>
      { g with phases := g.phases.set i (.returning e), log := g.log ++ (work env f path).1 }
    | .ok out =>
      { g with phases := g.phases.set i .done, slots := g.slots.set i (some out),
               log := g.log ++ (work env f path).1 }
  | some (.returning e), _ =>
    match g.failure with
    | none => { g with phases := g.phases.set i .cancelling, failure := some e }
    | some _ => { g with phases := g.phases.set i .done }
  | some .cancelling, _ => { g with phases := g.phases.set i .done, cancelled := true }
  | _, _ => g

def run (env : Environment) (f : List UInt8 → Except Error (List UInt8)) (paths : List String)
    (g : Group) (sched : List Nat) : Group :=
  sched.foldl (step env f paths) g

def completion (n : Nat) : List Nat :=
  (List.range n).flatMap (fun i ↦ List.replicate 4 i)

def result (g : Group) : Except CliError (List (List UInt8)) :=
  match g.failure with
  | some e => .error e
  | none => .ok (g.slots.map (fun s ↦ s.getD []))

end Group

/-- Applies `f` to the files at `paths` with a group of workers, in the environment's schedule
and then worker after worker. -/
def fromFiles (env : Environment) (f : List UInt8 → Except Error (List UInt8))
    (paths : List String) : List Entry × Except CliError (List (List UInt8)) :=
  let g := (Group.start paths.length).run env f paths
    (env.schedule ++ Group.completion paths.length)
  (g.log, g.result)

end Z85.Cli
