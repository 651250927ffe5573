import IndexSearch.Text.Numeral

/-!
# Network addresses

The numeric forms of hosts. A version 4 address in a URL has up to four numbers in three bases, of
which the last fills the remaining bytes; in a version 6 address and in a socket address it has
exactly four decimal numbers.
-/

namespace IndexSearch

/-- A version 6 address as its eight pieces of sixteen bits. -/
abbrev Ipv6 := List Nat

namespace Address

def split (separator : Char) (text : Text) : List Text :=
  text.splitOnP (· == separator)

/-- The parts between dots; a last dot does not count. -/
def dotParts (text : Text) : List Text :=
  let parts := split '.' text
  if parts.getLast? = some [] then parts.dropLast else parts

/-- The value of a number with the prefix of its base: `0x` for sixteen and `0` for eight. -/
def number? : Text → Option Nat
  | [] => none
  | '0' :: x :: digits =>
    if x = 'x' ∨ x = 'X' then if digits.isEmpty then some 0 else Numeral.parse? 16 digits
    else Numeral.parse? 8 (x :: digits)
  | digits => Numeral.parse? 10 digits

def endsInNumber (host : Text) : Bool :=
  match (dotParts host).getLast? with
  | none => false
  | some [] => false
  | some last => last.all Char.isDigit || (number? last).isSome

def ipv4? (host : Text) : Option Nat := do
  let numbers ← (dotParts host).mapM number?
  let last ← numbers.getLast?
  let others := numbers.dropLast
  if 3 < others.length then none
  else if others.any (255 < ·) then none
  else if Nat.pow 256 (4 - others.length) ≤ last then none
  else
    some (others.zipIdx.foldl
      (fun value other => value + other.1 * Nat.pow 256 (3 - other.2)) last)

/-- A decimal number below 256 without leading zeros. -/
def octet? (text : Text) : Option Nat :=
  if text.length ≠ 1 ∧ text.head? = some '0' then none
  else (Numeral.parse? 10 text).filter (· < 256)

def octets? (text : Text) : Option (List Nat) :=
  ((split '.' text).mapM octet?).filter (·.length == 4)

def piece? (text : Text) : Option Nat :=
  if 4 < text.length then none else Numeral.parse? 16 text

/-- The pieces of groups that colons separate; the last group may be a version 4 address. -/
def pieces? (allowV4 : Bool) : List Text → Option (List Nat)
  | [] => some []
  | [last] =>
    if allowV4 && last.contains '.' then
      match octets? last with
      | some [a, b, c, d] => some [a * 256 + b, c * 256 + d]
      | _ => none
    else (piece? last).map ([·])
  | group :: groups => do
    let piece ← piece? group
    let others ← pieces? allowV4 groups
    some (piece :: others)

def cutDoubleColon? : Text → Option (Text × Text)
  | [] => none
  | c :: rest =>
    match c, rest with
    | ':', ':' :: rest => some ([], rest)
    | c, rest => (cutDoubleColon? rest).map fun cut => (c :: cut.1, cut.2)

def groups (text : Text) : List Text :=
  if text.isEmpty then [] else split ':' text

/-- The version 6 address of a text. A double colon stands for one or more zero pieces. -/
def ipv6? (text : Text) : Option Ipv6 :=
  match cutDoubleColon? text with
  | none => (pieces? true (groups text)).filter (·.length == 8)
  | some (left, right) => do
    let left ← pieces? false (groups left)
    let right ← pieces? true (groups right)
    if 7 < left.length + right.length then none
    else some (left ++ List.replicate (8 - left.length - right.length) 0 ++ right)

def hexText (n : Nat) : Text :=
  Nat.toDigits 16 n

def zeroRun (pieces : List Nat) : Nat :=
  (pieces.takeWhile (· == 0)).length

def longestZeros (pieces : Ipv6) : Nat × Nat :=
  (List.range pieces.length).foldl
    (fun best start =>
      let length := zeroRun (pieces.drop start)
      if best.2 < length then (start, length) else best)
    (0, 0)

def colonText (pieces : List Nat) : Text :=
  [':'].intercalate (pieces.map hexText)

def dottedText (octets : List Nat) : Text :=
  ['.'].intercalate (octets.map Numeral.render)

/-- The canonical form: lower-case digits, the first longest run of at least two zero pieces as a
double colon, and a mapped version 4 address in dotted form. -/
def ipv6Text (pieces : Ipv6) : Text :=
  match pieces with
  | [0, 0, 0, 0, 0, 0xFFFF, high, low] =>
    "::ffff:".toList ++ dottedText [high / 256, high % 256, low / 256, low % 256]
  | pieces =>
    let (start, length) := longestZeros pieces
    if length < 2 then colonText pieces
    else colonText (pieces.take start) ++ [':', ':'] ++ colonText (pieces.drop (start + length))

end Address

inductive SocketAddress where
  | v4 (octets : List Nat) (port : Nat)
  | v6 (pieces : Ipv6) (scope : Nat) (port : Nat)
deriving DecidableEq, Repr

namespace SocketAddress

def cutLast? (c : Char) (text : Text) : Option (Text × Text) :=
  match text.reverse.span (· != c) with
  | (after, _ :: before) => some (before.reverse, after.reverse)
  | (_, []) => none

/-- Reads an address with its port, as in `127.0.0.1:80` and `[::1]:80`. -/
def parse? (text : Text) : Option SocketAddress := do
  let (host, port) ← cutLast? ':' text
  let port ← (Numeral.parse? 10 port).filter (· < 65536)
  match host with
  | '[' :: host =>
    let (inside, after) ← cutLast? ']' host
    if !after.isEmpty then none
    else
      match cutLast? '%' inside with
      | some (pieces, scope) =>
        some (.v6 (← Address.ipv6? pieces) (← (Numeral.parse? 10 scope).filter (· < UInt32.size)) port)
      | none => some (.v6 (← Address.ipv6? inside) 0 port)
  | host => some (.v4 (← Address.octets? host) port)

def render : SocketAddress → Text
  | .v4 octets port => Address.dottedText octets ++ [':'] ++ Numeral.render port
  | .v6 pieces scope port =>
    ['['] ++ Address.ipv6Text pieces
      ++ (if scope = 0 then [] else ['%'] ++ Numeral.render scope)
      ++ [']', ':'] ++ Numeral.render port

end SocketAddress

end IndexSearch
