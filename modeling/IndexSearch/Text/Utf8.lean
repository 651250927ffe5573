import IndexSearch.Text.Basic

/-!
# UTF-8

Bytes are read by one machine that yields a code point for each well-formed sequence and a gap
for each maximal part that cannot be continued to one. Lossy decoding writes U+FFFD for a gap
and strict decoding refuses it; nothing else separates the two.
-/

namespace IndexSearch.Utf8

def encode (text : Text) : Bytes :=
  text.flatMap String.utf8EncodeChar

theorem encode_injective {text other : Text} (h : encode text = encode other) : text = other := by
  have hbytes : text.utf8Encode = other.utf8Encode := congrArg List.toByteArray h
  have hdecode := congrArg ByteArray.utf8Decode? hbytes
  simpa [List.utf8Decode?_utf8Encode] using hdecode

/-- A sequence that is begun but not complete: the number of continuation bytes still owed, the
bounds of the next one, and the bits read so far. -/
structure Pending where
  owed : Nat
  low : Nat
  high : Nat
  bits : Nat
deriving DecidableEq, Repr

/-- What a byte means between two sequences. -/
inductive Lead where
  | char (c : Char)
  | opening (p : Pending)
  | stray
deriving DecidableEq, Repr

/-- Overlong forms, surrogates and values past U+10FFFF are excluded by the bounds of the second
byte, and the bytes that begin no sequence are stray. -/
def lead (b : UInt8) : Lead :=
  let n := b.toNat
  if n < 0x80 then .char (Char.ofNat n)
  else if n < 0xC2 then .stray
  else if n < 0xE0 then .opening ⟨1, 0x80, 0xBF, n - 0xC0⟩
  else if n < 0xF0 then
    .opening ⟨2, if n = 0xE0 then 0xA0 else 0x80, if n = 0xED then 0x9F else 0xBF, n - 0xE0⟩
  else if n < 0xF5 then
    .opening ⟨3, if n = 0xF0 then 0x90 else 0x80, if n = 0xF4 then 0x8F else 0xBF, n - 0xF0⟩
  else .stray

def start (b : UInt8) : Option Pending × List (Option Char) :=
  match lead b with
  | .char c => (none, [some c])
  | .opening p => (some p, [])
  | .stray => (none, [none])

/-- A byte read in any state. A byte that cannot continue the open sequence closes it as one gap
and is then read afresh. -/
def step : Option Pending → UInt8 → Option Pending × List (Option Char)
  | none, b => start b
  | some p, b =>
    let n := b.toNat
    if p.low ≤ n ∧ n ≤ p.high then
      let bits := p.bits * 64 + (n - 0x80)
      if p.owed ≤ 1 then (none, [some (Char.ofNat bits)])
      else (some ⟨p.owed - 1, 0x80, 0xBF, bits⟩, [])
    else ((start b).1, none :: (start b).2)

/-- The code points and gaps of a byte string, from a state; a sequence open at the end is a gap. -/
def unitsFrom : Option Pending → Bytes → List (Option Char)
  | none, [] => []
  | some _, [] => [none]
  | state, b :: rest => (step state b).2 ++ unitsFrom (step state b).1 rest

def units (bytes : Bytes) : List (Option Char) :=
  unitsFrom none bytes

def replacement : Char := '\uFFFD'

/-- Decoding that never fails: each gap becomes U+FFFD. -/
def decodeLossy (bytes : Bytes) : Text :=
  (units bytes).map (·.getD replacement)

def decode? (bytes : Bytes) : Option Text :=
  (units bytes).mapM id

end IndexSearch.Utf8
