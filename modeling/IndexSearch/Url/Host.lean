import IndexSearch.Url.Domain.Name
import IndexSearch.Url.Percent

/-!
# Hosts

The host of a URL: a domain, an address, or under schemes without rules of their own any name.
Reading one either fails or yields the host in its normal form, which is the folded one of a domain.
-/

namespace IndexSearch

inductive Host where
  | domain (name : Text)
  | ipv4 (value : Nat)
  | ipv6 (pieces : Ipv6)
  | name (name : Text)
deriving DecidableEq, Repr

namespace Host

def isForbidden (c : Char) : Bool :=
  ['\x00', '\t', '\n', '\r', ' ', '#', '/', ':', '<', '>', '?', '@', '[', '\\', ']', '^',
    '|'].contains c

def bracketed? (inside : Text) : Option Host :=
  match inside.reverse with
  | ']' :: pieces => (Address.ipv6? pieces.reverse).map .ipv6
  | _ => none

/-- The domain or the address that a host of a special scheme stands for. -/
def parse? : Text → Option Host
  | '[' :: inside => bracketed? inside
  | text => do
    let decoded ← Utf8.decode? (Percent.decode (Utf8.encode text))
    let name := ['.'].intercalate (← Domain.labels? decoded)
    if name.isEmpty then none
    else if Address.endsInNumber name then (Address.ipv4? name).map .ipv4
    else some (.domain name)

def parseName? : Text → Option Host
  | '[' :: inside => bracketed? inside
  | text => if text.any isForbidden then none else some (.name (Percent.encode Percent.isControl text))

end Host

end IndexSearch
