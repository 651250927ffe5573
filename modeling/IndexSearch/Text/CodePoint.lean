/-!
# Sets and maps of code points

A property of code points is kept as ranges and a mapping as runs, both in ascending order. All
tables of this library are those of Unicode 17.0.
-/

namespace IndexSearch.CodePoint

/-- The code points `first`, `first + step`, …, `last`, mapped to `image`, `image + step`, …. -/
structure Run where
  first : Nat
  last : Nat
  step : Nat
  image : Nat
deriving DecidableEq, Repr

def Run.image? (run : Run) (n : Nat) : Option Nat :=
  if run.first ≤ n ∧ n ≤ run.last ∧ (n - run.first) % run.step = 0 then
    some (run.image + (n - run.first))
  else none

/-- The image of a code point under the first of some runs that holds it. -/
def image? (runs : List Run) (n : Nat) : Option Nat :=
  runs.findSome? (·.image? n)

def within (ranges : List (Nat × Nat)) (n : Nat) : Bool :=
  ranges.any fun range => decide (range.1 ≤ n ∧ n ≤ range.2)

end IndexSearch.CodePoint
