import IndexSearch.Text.Numeral
import IndexSearch.Text.Utf8

/-!
# Percent coding

A byte is written as a percent sign and two hexadecimal digits. Encoding writes the characters of
a set and everything that is not ASCII in this way; decoding reads every such triple and leaves
all other bytes as they are.
-/

namespace IndexSearch.Percent

def hexDigit (n : Nat) : Char :=
  if n < 10 then Char.ofNat (48 + n) else Char.ofNat (55 + n)

def encodeByte (b : UInt8) : Text :=
  ['%', hexDigit (b.toNat / 16), hexDigit (b.toNat % 16)]

/-- Control characters and everything that is not ASCII. -/
def isControl (c : Char) : Bool :=
  decide (c.toNat < 0x20 ∨ 0x7E < c.toNat)

def inPathSet (c : Char) : Bool :=
  isControl c || [' ', '"', '#', '<', '>', '?', '`', '\x7b', '\x7d'].contains c

def inQuerySet (c : Char) : Bool :=
  isControl c || [' ', '"', '#', '<', '>', '\''].contains c

def encode (set : Char → Bool) (text : Text) : Text :=
  text.flatMap fun c => if set c then (Utf8.encode [c]).flatMap encodeByte else [c]

def hexValue? (b : UInt8) : Option Nat :=
  Numeral.digitValue? 16 (Char.ofNat b.toNat)

def decode : Bytes → Bytes
  | [] => []
  | b :: rest =>
    match b, rest with
    | 37, high :: low :: rest =>
      match hexValue? high, hexValue? low with
      | some high, some low => UInt8.ofNat (16 * high + low) :: decode rest
      | _, _ => 37 :: decode (high :: low :: rest)
    | b, rest => b :: decode rest

/-- The text behind a percent-coded text; bytes that are not UTF-8 become U+FFFD. -/
def decodeText (text : Text) : Text :=
  Utf8.decodeLossy (decode (Utf8.encode text))

end IndexSearch.Percent
