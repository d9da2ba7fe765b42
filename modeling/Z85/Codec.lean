namespace Z85

/-- A codec, lenient unless made canonical. -/
structure Codec where
  strict : Bool := false
  deriving DecidableEq, Repr

inductive Setting where
  | strict (on : Bool)
  deriving DecidableEq, Repr

namespace Codec

def lenient : Codec := {}

def canonical : Codec := { strict := true }

def set (c : Codec) : Setting → Codec
  | .strict on => { c with strict := on }

/-- The lenient codec after the settings in order; of two settings of a field the last wins. -/
def configure (settings : List Setting) : Codec :=
  settings.foldl set lenient

@[simp] theorem lenient_strict : lenient.strict = false := rfl

@[simp] theorem canonical_strict : canonical.strict = true := rfl

theorem strict_configure_append (settings : List Setting) (on : Bool) :
    (configure (settings ++ [.strict on])).strict = on := by
  simp [configure, set]

end Codec

end Z85
