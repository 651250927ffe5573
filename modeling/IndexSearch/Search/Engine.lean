import IndexSearch.Search.Hit
import IndexSearch.Search.MatchList
import IndexSearch.Shard.Basic
import IndexSearch.Text.Numeral

/-!
# The search engine

A search looks for the documents that contain every term. Each shard is searched on its own: a
document's rank there is the sum, over the terms, of its frequency in their posting lists, where
only the first posting of a document counts. The hits of all shards are put in order together.
-/

namespace IndexSearch

/-- A document that contains the terms read so far, with the sum of its frequencies. -/
structure Candidate where
  docId : DocId
  rank : UInt64
deriving DecidableEq, Repr

/-- The first posting of each document, in list order. -/
def firstPostings : List Posting → List Posting
  | [] => []
  | posting :: rest =>
    posting :: (firstPostings rest).filter fun other => decide (other.docId ≠ posting.docId)

def frequency? (postings : List Posting) (id : DocId) : Option UInt32 :=
  (postings.find? fun posting => decide (posting.docId = id)).map Posting.frequency

namespace Candidate

def ofPostings (postings : List Posting) : MatchList Candidate :=
  ⟨(firstPostings postings).map fun posting => ⟨posting.docId, posting.frequency.toUInt64⟩⟩

/-- The candidate with a further term counted, unless the document is not among its postings. -/
def count? (postings : List Posting) (candidate : Candidate) : Option Candidate :=
  (frequency? postings candidate.docId).map fun frequency =>
    { candidate with rank := candidate.rank + frequency.toUInt64 }

end Candidate

namespace Reader

/-- Keeps the candidates that contain the further terms. An unknown term leaves none, and once
none is left the terms that follow are not looked up. -/
def narrow (reader : Reader) :
    MatchList Candidate → List Text → Except Breach (MatchList Candidate)
  | candidates, [] => .ok candidates
  | candidates, term :: terms => do
    match ← reader.postings term with
    | none => .ok .empty
    | some postings =>
      let (candidates, emptied) := candidates.sweep (Candidate.count? postings)
      if emptied then .ok candidates else reader.narrow candidates terms

def candidates (reader : Reader) (first : Text) (others : List Text) :
    Except Breach (MatchList Candidate) := do
  match ← reader.postings first with
  | none => .ok .empty
  | some postings => reader.narrow (Candidate.ofPostings postings) others

/-- The hits of a shard; a document without a name is left out. -/
def hits (reader : Reader) (first : Text) (others : List Text) : Except Breach (List Hit) := do
  let found ← reader.candidates first others
  .ok (found.items.filterMap fun candidate =>
    (reader.name candidate.docId).map fun name => ⟨name, candidate.rank⟩)

end Reader

/-- A way to find the hits of some terms. -/
abbrev Search := List Text → Except Breach (List Hit)

structure Engine where
  readers : List Reader
  readers_ne_nil : readers ≠ []

namespace Engine

def ofReaders (readers : List Reader) : Except Breach Engine :=
  if h : readers = [] then .error .noShards else .ok ⟨readers, h⟩

def shardCount (engine : Engine) : Nat :=
  engine.readers.length

def description (engine : Engine) : Text :=
  "QueryEngine \x7b shard_count: ".toList ++ Numeral.render engine.shardCount ++ " \x7d".toList

/-- The hits of a search in ascending order. The terms may not be empty. -/
def search (engine : Engine) : List Text → Except Breach (List Hit)
  | [] => .error .noTerms
  | first :: others => do
    let hits ← engine.readers.mapM fun reader => reader.hits first others
    .ok (Hit.sort hits.flatten)

end Engine

end IndexSearch
