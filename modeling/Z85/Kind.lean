namespace Z85

/-- A class of failure that callers test for. -/
inductive Kind where
  | invalidKey
  | shortBuffer
  | nonCanonical
  | invalidLength
  | invalidCharacter
  | frameOverflow
  | unexpectedEnd
  | endOfInput
  | hexLength
  | notFound
  | hexByte
  deriving DecidableEq, Repr

namespace Kind

def all : List Kind :=
  [invalidKey, shortBuffer, nonCanonical, invalidLength, invalidCharacter, frameOverflow,
    unexpectedEnd, endOfInput, hexLength, notFound, hexByte]

def sort (ks : List Kind) : List Kind :=
  all.filter (· ∈ ks)

theorem mem_all (k : Kind) : k ∈ all := by
  cases k <;> decide

theorem mem_sort {k : Kind} {ks : List Kind} : k ∈ sort ks ↔ k ∈ ks := by
  simp [sort, mem_all]

end Kind

end Z85
