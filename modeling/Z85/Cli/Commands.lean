import Z85.Cli.Invocation
import Z85.Cli.Run
import Z85.Cli.Schedule
import Z85.Decode
import Z85.Text.Blank
import Z85.Text.Lines
import Z85.Text.Quoted

namespace Z85.Cli

def levelEntry (flags : Flags) : Entry :=
  ⟨.debug, .levelSet, "log level " ++ (Level.ofFlags flags.debug flags.quiet).name⟩

def codecOf (flags : Flags) : Codec × List Entry :=
  if flags.strict then (Codec.canonical, [⟨.debug, .strictCodec, "strict decoding"⟩])
  else (Codec.lenient, [])

def fromStdin (env : Environment) (f : List UInt8 → Except Error (List UInt8)) :
    List Entry × Except CliError (List (List UInt8)) :=
  match env.stdin with
  | .error reason => ([], .error (.readStdin reason))
  | .ok data =>
    let entry : Entry :=
      ⟨.debug, .stdinRead, "read " ++ toString data.length ++ " bytes from stdin"⟩
    match f data with
    | .ok out => ([entry], .ok [out])
    | .error e => ([entry], .error (.stdin e))

/-- Applies `f` to the files at `paths`, or to the standard input when there is none. -/
def transform (env : Environment) (f : List UInt8 → Except Error (List UInt8))
    (paths : List String) : List Entry × Except CliError (List (List UInt8)) :=
  if paths = [] then fromStdin env f else fromFiles env f paths

/-- The run that writes each output of a transform with `finish`. -/
def writeEach (log : List Entry) (r : Except CliError (List (List UInt8)))
    (finish : List UInt8 → List UInt8) : Run :=
  match r with
  | .error e => ⟨log, [], .error e⟩
  | .ok outs => ⟨log, outs.map finish, .ok ()⟩

def encodeRun (env : Environment) (flags : Flags) (paths : List String) : Run :=
  let (_, chosen) := codecOf flags
  let (log, r) := transform env (fun data ↦ .ok (encode data)) paths
  writeEach (chosen ++ log) r (· ++ [0x0A])

def decodeRun (env : Environment) (flags : Flags) (newline : Bool) (paths : List String) : Run :=
  let (codec, chosen) := codecOf flags
  let (log, r) := transform env (fun data ↦ codec.decode (Text.Blank.trim data)) paths
  writeEach (chosen ++ log) r (fun out ↦ if newline then out ++ [0x0A] else out)

/-- The texts that `check` reads: the operands, or else the lines of the standard input, each
trimmed of blanks. -/
def checkInputs (env : Environment) (texts : List String) : Except CliError (List (List UInt8)) :=
  if texts = [] then
    match env.stdin with
    | .error reason => .error (.readLines reason)
    | .ok data =>
      match Text.Lines.read? data with
      | some lines => .ok (lines.map Text.Blank.trim)
      | none => .error .lineTooLong
  else .ok (texts.map Text.Utf8.bytes)

/-- The line that `check` writes for a text: the text quoted, and `ok` or the failure. -/
def checkLine (codec : Codec) (text : List UInt8) : String :=
  let status := match codec.validate text with
    | .ok () => "ok"
    | .error e => e.message
  Text.Quoted.bytes text ++ ": " ++ status ++ "\n"

def invalidCount (codec : Codec) (texts : List (List UInt8)) : Nat :=
  (texts.filter (fun t ↦ (codec.validate t).toBool = false)).length

def checkRun (env : Environment) (flags : Flags) (texts : List String) : Run :=
  let (codec, chosen) := codecOf flags
  match checkInputs env texts with
  | .error e => ⟨chosen, [], .error e⟩
  | .ok inputs =>
    let count := invalidCount codec inputs
    ⟨chosen, inputs.map (fun t ↦ Text.Utf8.bytes (checkLine codec t)),
      if count = 0 then .ok () else .error (.invalid count inputs.length)⟩

def keygenRun (env : Environment) (hex : Bool) : Run :=
  match Curve.KeyPair.generate env.random with
  | .error e => ⟨[], [], .error (.generate e)⟩
  | .ok kp =>
    let keys := "public: " ++ kp.publicKey.toText ++ "\nsecret: " ++ kp.secretKey.toText ++ "\n"
    let hexes :=
      "public-hex: " ++ kp.publicKey.toHex ++ "\nsecret-hex: " ++ kp.secretKey.toHex ++ "\n"
    ⟨[], [Text.Utf8.bytes keys] ++ (if hex then [Text.Utf8.bytes hexes] else []), .ok ()⟩

def Command.readsStdin : Command → Bool
  | .encode paths => paths.isEmpty
  | .decode _ paths => paths.isEmpty
  | .check texts => texts.isEmpty
  | .keygen _ => false

def Command.paths : Command → List String
  | .encode paths => paths
  | .decode _ paths => paths
  | _ => []

/-- The run of an invocation: the level is logged first, then the command runs. -/
def Invocation.run (inv : Invocation) (env : Environment) : Run :=
  let r := match inv.command with
    | .encode paths => encodeRun env inv.flags paths
    | .decode newline paths => decodeRun env inv.flags newline paths
    | .check texts => checkRun env inv.flags texts
    | .keygen hex => keygenRun env hex
  ⟨levelEntry inv.flags :: r.log, r.writes, r.ending⟩

end Z85.Cli
