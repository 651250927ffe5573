import IndexSearch.Text.Basic

/-!
# Numerals

Natural numbers written in decimal, and read in a base of at most sixteen.
-/

namespace IndexSearch.Numeral

def digit (n : Nat) : Char :=
  Char.ofNat (48 + n)

/-- The decimal numeral of a number, without leading zeros. -/
def render (n : Nat) : Text :=
  if n < 10 then [digit n] else render (n / 10) ++ [digit (n % 10)]

/-- The value of a digit in a base of at most sixteen; letters count in both cases. -/
def digitValue? (base : Nat) (c : Char) : Option Nat :=
  let n := c.toNat
  let value :=
    if 48 ≤ n ∧ n ≤ 57 then n - 48
    else if 97 ≤ n ∧ n ≤ 102 then n - 87
    else if 65 ≤ n ∧ n ≤ 70 then n - 55
    else 16
  if value < base ∧ value < 16 then some value else none

def parse? (base : Nat) (text : Text) : Option Nat :=
  if text.isEmpty then none
  else text.foldlM (fun value c => (digitValue? base c).map (value * base + ·)) 0

end IndexSearch.Numeral
