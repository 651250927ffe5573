import IndexSearch.Table
import IndexSearch.Fault

/-!
# Shards

A shard maps terms to postings and document ids to names. Its ids mean nothing outside of it.
A reader is all that a search sees of a shard: the two look-ups, of which the first may fail.
-/

namespace IndexSearch

/-- A document's handle within its shard. -/
abbrev DocId := UInt64

structure Posting where
  docId : DocId
  frequency : UInt32
deriving DecidableEq, Repr

structure Shard where
  terms : Table Text (List Posting)
  docs : Table DocId Text
deriving DecidableEq, Repr

/-- The tables of a shard as sequences of entries, in which keys may repeat. -/
structure ShardEntries where
  terms : List (Text × List Posting)
  docs : List (DocId × Text)
deriving DecidableEq, Repr

namespace Shard

def ofEntries (entries : ShardEntries) : Shard :=
  ⟨Table.ofList entries.terms, Table.ofList entries.docs⟩

/-- The entries of a shard, one for each key. -/
def entries (shard : Shard) : ShardEntries :=
  ⟨shard.terms.entries, shard.docs.entries⟩

def termCount (shard : Shard) : Nat :=
  shard.terms.size

def documentCount (shard : Shard) : Nat :=
  shard.docs.size

def postings? (shard : Shard) (term : Text) : Option (List Posting) :=
  shard.terms.get? term

def name? (shard : Shard) (id : DocId) : Option Text :=
  shard.docs.get? id

end Shard

structure Reader where
  postings : Text → Except Breach (Option (List Posting))
  name : DocId → Option Text

namespace Reader

def ofShard (shard : Shard) : Reader where
  postings term := .ok (shard.postings? term)
  name := shard.name?

/-- A reader that gives up on every term and knows no document. -/
def failing (message : Text) : Reader where
  postings _ := .error (.reader message)
  name _ := none

end Reader

end IndexSearch
