import IndexSearch.Text.Basic

/-!
# Punycode

The characters that a label in ASCII stands for. The letters before the last hyphen are taken as they
are; the digits after it say, number by number, how far away the next insertion is, going through
all places of the text for one code point after the other.
-/

namespace IndexSearch.Punycode

def digit? (c : Char) : Option Nat :=
  let n := c.toNat
  if 97 ≤ n ∧ n ≤ 122 then some (n - 97)
  else if 65 ≤ n ∧ n ≤ 90 then some (n - 65)
  else if 48 ≤ n ∧ n ≤ 57 then some (n - 22)
  else none

/-- The digit from which a number ends at a position, under the current bias. -/
def threshold (position bias : Nat) : Nat :=
  min 26 (max 1 (position - bias))

def readNumber (bias : Nat) : Nat → Nat → Text → Option (Nat × Text)
  | _, _, [] => none
  | position, weight, c :: rest => do
    let digit ← digit? c
    let limit := threshold position bias
    if digit < limit then some (digit * weight, rest)
    else
      let (value, rest) ← readNumber bias (position + 36) (weight * (36 - limit)) rest
      some (digit * weight + value, rest)

/-- Divides a distance until it is small and counts thirty-six for each division. -/
def settle : Nat → Nat → Nat → Nat × Nat
  | 0, delta, bias => (delta, bias)
  | fuel + 1, delta, bias => if 455 < delta then settle fuel (delta / 35) (bias + 36) else (delta, bias)

def adapt (delta count : Nat) (isFirst : Bool) : Nat :=
  let delta := if isFirst then delta / 700 else delta / 2
  let (delta, bias) := settle delta (delta + delta / count) 0
  bias + 36 * delta / (delta + 38)

/-- Inserts characters until the digits are used up; each number read is a distance from the last
insertion. The fuel is the number of digits. -/
def insertAll : Nat → Nat → Nat → Nat → Text → Text → Option Text
  | _, _, _, _, written, [] => some written
  | 0, _, _, _, _, _ :: _ => none
  | fuel + 1, code, place, bias, written, digits => do
    let (delta, rest) ← readNumber bias 36 1 digits
    let count := written.length + 1
    let code := code + (place + delta) / count
    let place := (place + delta) % count
    if code.isValidChar then
      insertAll fuel code (place + 1) (adapt delta count (written.all fun c => decide (c.toNat < 0x80)))
        (written.insertIdx place (Char.ofNat code)) rest
    else none

/-- The characters that a label stands for. A hyphen that nothing precedes does not end the letters
that are taken as they are. -/
def decode? (label : Text) : Option Text :=
  let (digits, letters) := label.reverse.span (· != '-')
  match letters with
  | ['-'] => none
  | _ => insertAll digits.length 0x80 0 72 (letters.drop 1).reverse digits.reverse

end IndexSearch.Punycode
