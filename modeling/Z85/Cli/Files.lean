import Z85.Kind

namespace Z85.Cli

/-- Why a file could not be read. -/
inductive FileError where
  | notFound (path : String)
  | notDirectory (path : String)
  | isDirectory (path : String)
  | failed (step path reason : String)
  deriving DecidableEq, Repr

namespace FileError

def kinds : FileError → List Kind
  | notFound _ => [.notFound]
  | _ => []

def message : FileError → String
  | notFound p => "open " ++ p ++ ": no such file or directory"
  | notDirectory p => "open " ++ p ++ ": not a directory"
  | isDirectory p => "read " ++ p ++ ": is a directory"
  | failed step p reason => step ++ " " ++ p ++ ": " ++ reason

end FileError

inductive Node where
  | file (bytes : List UInt8)
  | directory
  deriving DecidableEq, Repr

/-- A directory tree: what is at each path, as lists of parts from the root. The root is a
directory; of two entries for a path the later one counts. -/
structure Tree where
  entries : List (List String × Node)
  deriving Repr

namespace Tree

def empty : Tree := ⟨[]⟩

def parts (path : String) : Option (List String) :=
  if path.startsWith "/" then none
  else ((path.splitOn "/").foldlM step []).map List.reverse
where
  step (acc : List String) (part : String) : Option (List String) :=
    if part = "" ∨ part = "." then some acc
    else if part = ".." then (if acc = [] then none else some (acc.drop 1))
    else some (part :: acc)

def find? (t : Tree) (ps : List String) : Option Node :=
  if ps = [] then some .directory
  else ((t.entries.reverse.find? (·.1 = ps)).map (·.2))

def insert (t : Tree) (path : String) (n : Node) : Tree :=
  match parts path with
  | some ps => ⟨t.entries ++ [(ps, n)]⟩
  | none => t

inductive Place where
  | inside (ps : List String)
  | outside
  deriving DecidableEq, Repr

def step (t : Tree) (path : String) : Place → String → Except FileError Place
  | .outside, part =>
    if part = "" ∨ part = "." ∨ part = ".." then .ok .outside
    else if part.utf8ByteSize > 255 then .error (.failed "open" path "file name too long")
    else .error (.notFound path)
  | .inside ps, part =>
    match t.find? ps with
    | some .directory =>
      if part = "" ∨ part = "." then .ok (.inside ps)
      else if part = ".." then .ok (if ps = [] then .outside else .inside ps.dropLast)
      else if part.utf8ByteSize > 255 then .error (.failed "open" path "file name too long")
      else .ok (.inside (ps ++ [part]))
    | some (.file _) => .error (.notDirectory path)
    | none => .error (.notFound path)

/-- The bytes of the file at a path, its parts read from the left; a path that starts with `/`
starts outside the tree. A path with a NUL byte, and one of 4096 bytes or more, is refused
before it is read. -/
def read (t : Tree) (path : String) : Except FileError (List UInt8) :=
  if path.any (· = Char.ofNat 0) then .error (.failed "open" path "invalid argument")
  else if path = "" then .error (.notFound path)
  else if path.utf8ByteSize ≥ 4096 then .error (.failed "open" path "file name too long")
  else
    let start : Place := if path.startsWith "/" then .outside else .inside []
    match (path.splitOn "/").foldlM (step t path) start with
    | .error e => .error e
    | .ok .outside => .error (.isDirectory path)
    | .ok (.inside ps) =>
      match t.find? ps with
      | some (.file bs) => .ok bs
      | some .directory => .error (.isDirectory path)
      | none => .error (.notFound path)

end Tree

end Z85.Cli
