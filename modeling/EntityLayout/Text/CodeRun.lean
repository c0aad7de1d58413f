/-!
# Runs of code points

A character class is a list of runs. A run has a stride because the letters of many scripts
alternate between the two cases, so that every second code point belongs to a class.
-/
namespace EntityLayout

/-- Every `stride`-th code point from `first` up to `last`. -/
structure CodeRun where
  first : Nat
  last : Nat
  stride : Nat
  deriving DecidableEq, Repr

def CodeRun.contains (run : CodeRun) (code : Nat) : Bool :=
  run.first ≤ code && code ≤ run.last && (code - run.first) % run.stride == 0

/-- Whether a class, given by its runs, has the character. -/
def inClass (runs : List CodeRun) (c : Char) : Bool :=
  runs.any (·.contains c.toNat)

end EntityLayout
