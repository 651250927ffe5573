import IndexSearch.Text.Utf8

/-!
# Hits

A found document with its rank. Hits are ordered by name, as byte strings, and then by rank.
-/

namespace IndexSearch

inductive Source where
  | localFile
  | web
deriving DecidableEq, Repr

structure Hit where
  name : Text
  rank : UInt64
deriving DecidableEq, Repr

def webPrefix : Text :=
  "http://".toList

namespace Hit

/-- A document whose name is a web address lives there, every other one is a local file. -/
def source (hit : Hit) : Source :=
  if webPrefix.isPrefixOf hit.name then .web else .localFile

/-- Whether a byte string comes before another or equals it, the first difference deciding. -/
def bytesLe : Bytes → Bytes → Bool
  | [], _ => true
  | _ :: _, [] => false
  | a :: as, b :: bs =>
    if a.toNat < b.toNat then true else if b.toNat < a.toNat then false else bytesLe as bs

def le (a b : Hit) : Bool :=
  if a.name = b.name then decide (a.rank.toNat ≤ b.rank.toNat)
  else bytesLe (Utf8.encode a.name) (Utf8.encode b.name)

def sort (hits : List Hit) : List Hit :=
  hits.mergeSort le

end Hit

end IndexSearch
