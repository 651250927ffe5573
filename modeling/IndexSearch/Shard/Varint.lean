import IndexSearch.Text.Basic

/-!
# Variable-length integers

Numbers as bytes of seven bits, lowest first, every byte but the last with its high bit set.
Padding with zero bits is accepted. A width limits the number of bytes and the value of the last
byte allowed, so that no accepted number reaches the width's bound.
-/

namespace IndexSearch

inductive DecodeFault where
  | endOfBuffer
  | badVarint
  | badText
deriving DecidableEq, Repr

def DecodeFault.message : DecodeFault → Text
  | .endOfBuffer => "Hit the end of buffer, expected more data".toList
  | .badVarint =>
    "Found a varint that didn't terminate. Is the usize too big for this platform?".toList
  | .badText => "Tried to parse invalid utf-8".toList

/-- The two sizes of number that a shard holds. -/
inductive Width where
  | w32
  | w64
deriving DecidableEq, Repr

namespace Width

def maxBytes : Width → Nat
  | .w32 => 5
  | .w64 => 10

/-- The largest value of the last byte allowed. -/
def lastByte : Width → Nat
  | .w32 => 15
  | .w64 => 1

/-- One more than the largest number of this width. -/
def bound : Width → Nat
  | .w32 => UInt32.size
  | .w64 => UInt64.size

end Width

namespace Varint

/-- Reads a number of at most `left` bytes, of which the last may not exceed `last`. -/
def readWithin (last : Nat) : Nat → Bytes → Except DecodeFault (Nat × Bytes)
  | 0, _ => .error .badVarint
  | _ + 1, [] => .error .endOfBuffer
  | left + 1, b :: rest =>
    if b.toNat < 128 then
      if left = 0 ∧ last < b.toNat then .error .badVarint else .ok (b.toNat, rest)
    else
      match readWithin last left rest with
      | .ok (value, rest) => .ok (b.toNat - 128 + 128 * value, rest)
      | .error fault => .error fault

def read (width : Width) (bytes : Bytes) : Except DecodeFault (Nat × Bytes) :=
  readWithin width.lastByte width.maxBytes bytes

/-- The shortest form of a number. -/
def encode (n : Nat) : Bytes :=
  if n < 128 then [UInt8.ofNat n] else UInt8.ofNat (n % 128 + 128) :: encode (n / 128)

end Varint

end IndexSearch
