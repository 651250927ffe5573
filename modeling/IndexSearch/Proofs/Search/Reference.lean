import IndexSearch.Proofs.Search.Order
import IndexSearch.Proofs.Search.Sweep
import IndexSearch.Proofs.Steps
import IndexSearch.Search.Engine
import Mathlib.Algebra.BigOperators.Group.Multiset.Basic
import Mathlib.Algebra.GroupWithZero.Nat
import Mathlib.Data.FinEnum
import Mathlib.Data.List.Permutation

/-!
# What a search finds

The reference answer to a search has one entry for each pair of a shard and a document of it that
has a name and occurs in the postings of every term. Its rank is the sum, over the positions of the
term list, of the frequency in the document's first posting there. The entries of all shards stand
in ascending order, and equal entries are all kept.

Postings may be in any order and repeat documents, and terms may repeat. A reader is taken to
answer every look-up; nothing is said here about one that gives up.
-/

namespace IndexSearch

/-- The frequency in the first posting of a document; zero if it has none. -/
def firstFrequency (id : DocId) : List Posting → Nat
  | [] => 0
  | posting :: rest =>
    if posting.docId = id then posting.frequency.toNat else firstFrequency id rest

def Hit.entry (hit : Hit) : Text × Nat :=
  (hit.name, hit.rank.toNat)

namespace Reader

/-- A reader that answers every look-up of a term. -/
def NeverFails (reader : Reader) : Prop :=
  ∀ term, ∃ found, reader.postings term = .ok found

theorem neverFails_ofShard (shard : Shard) : (ofShard shard).NeverFails :=
  fun term => ⟨shard.postings? term, rfl⟩

/-- The postings of a term; a term that the shard does not know has none. -/
def postingsOf (reader : Reader) (term : Text) : List Posting :=
  match reader.postings term with
  | .ok (some postings) => postings
  | _ => []

def Occurs (reader : Reader) (term : Text) (id : DocId) : Prop :=
  ∃ posting ∈ reader.postingsOf term, posting.docId = id

instance (reader : Reader) (term : Text) (id : DocId) : Decidable (reader.Occurs term id) :=
  inferInstanceAs (Decidable (∃ posting ∈ reader.postingsOf term, posting.docId = id))

/-- The documents that occur in the postings of every term. -/
def matching (reader : Reader) (terms : List Text) : Finset DocId :=
  {id | ∀ term ∈ terms, reader.Occurs term id}

/-- The sum of a document's first frequencies, once for each position of the term list. -/
def rankOf (reader : Reader) (terms : List Text) (id : DocId) : Nat :=
  (terms.map fun term => firstFrequency id (reader.postingsOf term)).sum

/-- The names and ranks of the documents of a shard that a search finds. -/
def entries (reader : Reader) (terms : List Text) : Multiset (Text × Nat) :=
  (reader.matching terms).val.filterMap fun id =>
    (reader.name id).map fun name => (name, reader.rankOf terms id)

end Reader

/-- The answer that a search over an engine's shards has to give. -/
structure Engine.IsReference (engine : Engine) (terms : List Text) (hits : List Hit) : Prop where
  ascending : hits.Pairwise Hit.Precedes
  complete : (hits.map Hit.entry : Multiset (Text × Nat)) =
    (engine.readers.map fun reader => reader.entries terms).sum

theorem mem_firstPostings_ids (postings : List Posting) (id : DocId) :
    id ∈ (firstPostings postings).map Posting.docId ↔
      ∃ posting ∈ postings, posting.docId = id := by
  induction postings with
  | nil => simp [firstPostings]
  | cons posting rest ih =>
    by_cases hid : posting.docId = id
    · simp [firstPostings, hid]
    · have hne : id ≠ posting.docId := fun heq => hid heq.symm
      simp only [List.mem_map] at ih
      simp only [firstPostings, List.map_cons, List.mem_cons, hne, false_or, List.mem_map,
        List.mem_filter, decide_eq_true_eq, exists_eq_or_imp, hid, ← ih]
      constructor
      · rintro ⟨other, ⟨hmem, _⟩, hother⟩
        exact ⟨other, hmem, hother⟩
      · rintro ⟨other, hmem, hother⟩
        exact ⟨other, ⟨hmem, hother ▸ hne⟩, hother⟩

theorem nodup_firstPostings (postings : List Posting) :
    ((firstPostings postings).map Posting.docId).Nodup := by
  induction postings with
  | nil => exact List.nodup_nil
  | cons posting rest ih =>
    rw [firstPostings, List.map_cons, List.nodup_cons]
    constructor
    · intro hmem
      obtain ⟨other, hother, heq⟩ := List.mem_map.mp hmem
      have hne := (List.mem_filter.mp hother).2
      simp [heq] at hne
    · exact ih.sublist (List.filter_sublist.map Posting.docId)

theorem frequency_of_mem_firstPostings {postings : List Posting} {posting : Posting}
    (h : posting ∈ firstPostings postings) :
    posting.frequency.toNat = firstFrequency posting.docId postings := by
  induction postings with
  | nil => simp [firstPostings] at h
  | cons first rest ih =>
    rcases List.mem_cons.mp h with rfl | h
    · simp [firstFrequency]
    · obtain ⟨hmem, hne⟩ := List.mem_filter.mp h
      have hne : first.docId ≠ posting.docId := fun heq => by simp [heq] at hne
      rw [firstFrequency, if_neg hne]
      exact ih hmem

theorem Candidate.count?_eq (postings : List Posting) (candidate : Candidate) :
    candidate.count? postings =
      if ∃ posting ∈ postings, posting.docId = candidate.docId then
        some { candidate with
          rank := candidate.rank + UInt64.ofNat (firstFrequency candidate.docId postings) }
      else none := by
  induction postings with
  | nil => simp [count?, frequency?]
  | cons posting rest ih =>
    by_cases hid : posting.docId = candidate.docId
    · simp [count?, frequency?, firstFrequency, hid, UInt64.ofNat_uInt32ToNat]
    · simpa [count?, frequency?, firstFrequency, hid] using ih

namespace Reader

variable {reader : Reader}

/-- The candidate with further terms counted, unless one of them lacks its document. -/
def extend? (reader : Reader) (terms : List Text) (candidate : Candidate) : Option Candidate :=
  if ∀ term ∈ terms, reader.Occurs term candidate.docId then
    some { candidate with
      rank := candidate.rank + UInt64.ofNat (reader.rankOf terms candidate.docId) }
  else none

theorem extend?_nil (candidate : Candidate) : reader.extend? [] candidate = some candidate := by
  simp [extend?, rankOf]

theorem extend?_cons (term : Text) (terms : List Text) (candidate : Candidate) :
    reader.extend? (term :: terms) candidate =
      (candidate.count? (reader.postingsOf term)).bind (reader.extend? terms) := by
  rw [Candidate.count?_eq]
  by_cases hfirst : ∃ posting ∈ reader.postingsOf term, posting.docId = candidate.docId
  · simp [extend?, rankOf, Occurs, hfirst, UInt64.ofNat_add, UInt64.add_assoc]
  · simp [extend?, Occurs, hfirst]

theorem postingsOf_eq {term : Text} {postings : List Posting}
    (h : reader.postings term = .ok (some postings)) : reader.postingsOf term = postings := by
  simp [postingsOf, h]

theorem postingsOf_unknown {term : Text} (h : reader.postings term = .ok none) :
    reader.postingsOf term = [] := by
  simp [postingsOf, h]

/-- Both early ends of the narrowing leave no candidate, as looking at all terms would. -/
theorem narrow_eq (steady : reader.NeverFails) (terms : List Text)
    (candidates : MatchList Candidate) :
    reader.narrow candidates terms = .ok ⟨candidates.items.filterMap (reader.extend? terms)⟩ := by
  induction terms generalizing candidates with
  | nil => simp [narrow, funext extend?_nil]
  | cons term terms ih =>
    have hsplit : candidates.items.filterMap (reader.extend? (term :: terms)) =
        (candidates.items.filterMap (Candidate.count? (reader.postingsOf term))).filterMap
          (reader.extend? terms) := by
      rw [List.filterMap_filterMap]
      exact congrArg (candidates.items.filterMap ·) (funext (extend?_cons term terms))
    obtain ⟨found, hfound⟩ := steady term
    cases found with
    | none =>
      have hnone : candidates.items.filterMap (Candidate.count? []) = [] := by
        simp [Candidate.count?, frequency?]
      rw [hsplit, postingsOf_unknown hfound, hnone]
      simp [narrow, hfound, bind, Except.bind, MatchList.empty]
    | some postings =>
      rw [hsplit, postingsOf_eq hfound]
      have hitems := MatchList.sweep_items (Candidate.count? postings) candidates
      have hempty := MatchList.sweep_emptied (Candidate.count? postings) candidates
      rcases hsweep : candidates.sweep (Candidate.count? postings) with ⟨⟨kept⟩, emptied⟩
      simp only [hsweep] at hitems hempty
      rw [← hitems]
      cases emptied with
      | true => simp [narrow, hfound, bind, Except.bind, hsweep, hempty rfl]
      | false => simp [narrow, hfound, bind, Except.bind, hsweep, ih]

/-- The documents that a search finds in a shard, in the order of the first term's postings. -/
def documents (reader : Reader) (first : Text) (others : List Text) : List DocId :=
  ((firstPostings (reader.postingsOf first)).map Posting.docId).filter fun id =>
    ∀ term ∈ others, reader.Occurs term id

theorem mem_documents (first : Text) (others : List Text) (id : DocId) :
    id ∈ reader.documents first others ↔ ∀ term ∈ first :: others, reader.Occurs term id := by
  rw [documents, List.mem_filter, mem_firstPostings_ids, decide_eq_true_eq, List.forall_mem_cons]
  rfl

theorem documents_eq_matching (first : Text) (others : List Text) :
    (reader.documents first others : Multiset DocId) = (reader.matching (first :: others)).val := by
  refine (Multiset.Nodup.ext ?_ (Finset.nodup _)).mpr fun id => ?_
  · exact Multiset.coe_nodup.mpr ((nodup_firstPostings _).filter _)
  · rw [Multiset.mem_coe, mem_documents, Finset.mem_val, matching, Finset.mem_filter_univ]

theorem extend?_of_mem_firstPostings {first : Text} (others : List Text) {posting : Posting}
    (hmem : posting ∈ firstPostings (reader.postingsOf first)) :
    reader.extend? others ⟨posting.docId, posting.frequency.toUInt64⟩ =
      if ∀ term ∈ others, reader.Occurs term posting.docId then
        some ⟨posting.docId, UInt64.ofNat (reader.rankOf (first :: others) posting.docId)⟩
      else none := by
  have hfrequency := frequency_of_mem_firstPostings hmem
  simp [extend?, rankOf, UInt64.ofNat_add, ← hfrequency, UInt64.ofNat_uInt32ToNat]

theorem candidates_eq (steady : reader.NeverFails) (first : Text) (others : List Text) :
    reader.candidates first others = .ok ⟨(reader.documents first others).map fun id =>
      ⟨id, UInt64.ofNat (reader.rankOf (first :: others) id)⟩⟩ := by
  obtain ⟨found, hfound⟩ := steady first
  cases found with
  | none =>
    simp [candidates, documents, hfound, postingsOf_unknown hfound, firstPostings, bind,
      Except.bind, MatchList.empty]
  | some postings =>
    have hpostings := postingsOf_eq hfound
    simp only [candidates, hfound, bind, Except.bind, narrow_eq steady, Candidate.ofPostings,
      documents, List.filterMap_map, List.filter_map, ← List.filterMap_eq_filter,
      List.map_filterMap]
    rw [← hpostings]
    refine congrArg (fun items => Except.ok (MatchList.mk items)) ?_
    refine List.filterMap_congr fun posting hmem => ?_
    rw [Function.comp_apply, extend?_of_mem_firstPostings others hmem]
    by_cases hothers : ∀ term ∈ others, reader.Occurs term posting.docId <;>
      simp [Option.guard, hothers]

theorem hits_eq (steady : reader.NeverFails) (first : Text) (others : List Text) :
    reader.hits first others = .ok ((reader.documents first others).filterMap fun id =>
      (reader.name id).map fun name =>
        ⟨name, UInt64.ofNat (reader.rankOf (first :: others) id)⟩) := by
  simp only [hits, candidates_eq steady, bind, Except.bind, List.filterMap_map]
  rfl

theorem firstFrequency_le (id : DocId) (postings : List Posting) :
    firstFrequency id postings ≤ 2 ^ 32 - 1 := by
  induction postings with
  | nil => exact Nat.zero_le _
  | cons posting rest ih =>
    have hlt := posting.frequency.toNat_lt
    rw [firstFrequency]
    split
    · omega
    · exact ih

theorem rankOf_le (terms : List Text) (id : DocId) :
    reader.rankOf terms id ≤ terms.length * (2 ^ 32 - 1) := by
  induction terms with
  | nil => simp [rankOf]
  | cons term terms ih =>
    have hfirst := firstFrequency_le id (reader.postingsOf term)
    simp only [rankOf, List.map_cons, List.sum_cons, List.length_cons] at ih ⊢
    omega

theorem rankOf_lt {terms : List Text} (short : terms.length ≤ 2 ^ 32 + 1) (id : DocId) :
    reader.rankOf terms id < 2 ^ 64 := by
  have hle := reader.rankOf_le terms id
  have hmul : terms.length * (2 ^ 32 - 1) ≤ (2 ^ 32 + 1) * (2 ^ 32 - 1) :=
    Nat.mul_le_mul_right _ short
  omega

theorem hits_entries (steady : reader.NeverFails) (first : Text) (others : List Text)
    (short : (first :: others).length ≤ 2 ^ 32 + 1) :
    ∃ hits, reader.hits first others = .ok hits ∧
      (hits.map Hit.entry : Multiset (Text × Nat)) = reader.entries (first :: others) := by
  refine ⟨_, hits_eq steady first others, ?_⟩
  rw [entries, ← documents_eq_matching, Multiset.filterMap_coe, List.map_filterMap]
  refine congrArg _ (List.filterMap_congr fun id _ => ?_)
  have hrank : (UInt64.ofNat (reader.rankOf (first :: others) id)).toNat =
      reader.rankOf (first :: others) id := UInt64.toNat_ofNat_of_lt' (rankOf_lt short id)
  cases reader.name id <;> simp [Hit.entry, hrank]

end Reader

namespace Engine

theorem mapM_hits_entries (readers : List Reader) (steady : ∀ reader ∈ readers, reader.NeverFails)
    (first : Text) (others : List Text) (short : (first :: others).length ≤ 2 ^ 32 + 1) :
    ∃ hits, readers.mapM (fun reader => reader.hits first others) = .ok hits ∧
      (hits.flatten.map Hit.entry : Multiset (Text × Nat)) =
        (readers.map fun reader => reader.entries (first :: others)).sum := by
  induction readers with
  | nil => exact ⟨[], rfl, rfl⟩
  | cons reader readers ih =>
    obtain ⟨hits, hhits, hentries⟩ := Reader.hits_entries (steady reader List.mem_cons_self)
      first others short
    obtain ⟨rest, hrest, hsum⟩ := ih fun other hmem => steady other (List.mem_cons_of_mem _ hmem)
    refine ⟨hits :: rest, ?_, ?_⟩
    · simp [List.mapM_cons, hhits, hrest, bind, Except.bind, pure, Except.pure]
    · rw [List.flatten_cons, List.map_append, ← Multiset.coe_add, hentries, hsum]
      simp

theorem mapM_hits_of_steady (readers : List Reader)
    (steady : ∀ reader ∈ readers, reader.NeverFails) (first : Text) (others : List Text) :
    ∃ hits, readers.mapM (fun reader => reader.hits first others) = .ok hits :=
  ⟨_, mapM_eq_ok_map fun reader hmem => Reader.hits_eq (steady reader hmem) first others⟩

/-- A search with terms succeeds, however many they are, if no reader gives up. -/
theorem exists_search {engine : Engine} (steady : ∀ reader ∈ engine.readers, reader.NeverFails)
    {terms : List Text} (nonempty : terms ≠ []) : ∃ hits, engine.search terms = .ok hits := by
  obtain ⟨first, others, rfl⟩ := List.exists_cons_of_ne_nil nonempty
  obtain ⟨hits, hhits⟩ := mapM_hits_of_steady engine.readers steady first others
  exact ⟨Hit.sort hits.flatten, by simp [search, hhits, bind, Except.bind]⟩

theorem search_eq_sort (engine : Engine) (first : Text) (others : List Text)
    (steady : ∀ reader ∈ engine.readers, reader.NeverFails)
    (short : (first :: others).length ≤ 2 ^ 32 + 1) :
    ∃ hits, engine.search (first :: others) = .ok (Hit.sort hits) ∧
      (hits.map Hit.entry : Multiset (Text × Nat)) =
        (engine.readers.map fun reader => reader.entries (first :: others)).sum := by
  obtain ⟨hits, hhits, hentries⟩ := mapM_hits_entries engine.readers steady first others short
  exact ⟨hits.flatten, by simp [search, hhits, bind, Except.bind], hentries⟩

end Engine

theorem Hit.entry_injective : Function.Injective Hit.entry := by
  rintro ⟨name, rank⟩ ⟨otherName, otherRank⟩ h
  simp only [entry, Prod.mk.injEq, UInt64.toNat_inj] at h
  obtain ⟨rfl, rfl⟩ := h
  rfl

namespace Engine

/-- A search gives the reference answer and nothing else would be one. -/
theorem search_reference (engine : Engine) (terms : List Text)
    (steady : ∀ reader ∈ engine.readers, reader.NeverFails) (nonempty : terms ≠ [])
    (short : terms.length ≤ 2 ^ 32 + 1) :
    ∃ hits, engine.search terms = .ok hits ∧
      ∀ answer, engine.IsReference terms answer ↔ answer = hits := by
  obtain ⟨first, others, rfl⟩ := List.exists_cons_of_ne_nil nonempty
  obtain ⟨hits, hsearch, hentries⟩ := engine.search_eq_sort first others steady short
  have hsorted : engine.IsReference (first :: others) (Hit.sort hits) := by
    refine ⟨Hit.sort_ascends hits, ?_⟩
    rw [← hentries]
    exact Multiset.coe_eq_coe.mpr ((Hit.sort_perm hits).map Hit.entry)
  refine ⟨Hit.sort hits, hsearch, fun answer => ⟨fun reference => ?_, fun heq => heq ▸ hsorted⟩⟩
  have hperm : (answer.map Hit.entry).Perm ((Hit.sort hits).map Hit.entry) :=
    Multiset.coe_eq_coe.mp (reference.complete.trans hsorted.complete.symm)
  exact Hit.ascending_unique reference.ascending hsorted.ascending
    ((List.map_perm_map_iff Hit.entry_injective).mp hperm)

/-- Two equal shards around one that lacks a term. Postings repeat a document out of order, and one
document has no name. -/
def twins : Engine where
  readers :=
    let shard := Shard.ofEntries {
      terms := [("a".toList, [⟨2, 3⟩, ⟨7, 1⟩, ⟨1, 5⟩, ⟨2, 9⟩]),
        ("b".toList, [⟨1, 1⟩, ⟨7, 6⟩, ⟨2, 4⟩])]
      docs := [(1, "y".toList), (2, "x".toList)] }
    let lacking := Shard.ofEntries { terms := [("a".toList, [⟨2, 3⟩])], docs := [(2, "x".toList)] }
    [.ofShard shard, .ofShard lacking, .ofShard shard]
  readers_ne_nil := List.cons_ne_nil _ _

/-- The hits of both equal shards are kept, and a repeated term counts twice. -/
theorem search_reference_twins :
    (∀ reader ∈ twins.readers, reader.NeverFails) ∧
      twins.search ["a".toList, "b".toList, "a".toList] =
        .ok [⟨"x".toList, 10⟩, ⟨"x".toList, 10⟩, ⟨"y".toList, 11⟩, ⟨"y".toList, 11⟩] ∧
      twins.IsReference ["a".toList, "b".toList, "a".toList]
        [⟨"x".toList, 10⟩, ⟨"x".toList, 10⟩, ⟨"y".toList, 11⟩, ⟨"y".toList, 11⟩] := by
  have steady : ∀ reader ∈ twins.readers, reader.NeverFails := by
    simp [twins, Reader.neverFails_ofShard]
  have hfound : twins.search ["a".toList, "b".toList, "a".toList] =
      .ok [⟨"x".toList, 10⟩, ⟨"x".toList, 10⟩, ⟨"y".toList, 11⟩, ⟨"y".toList, 11⟩] := by cbv
  obtain ⟨hits, hsearch, reference⟩ :=
    search_reference twins ["a".toList, "b".toList, "a".toList] steady (by decide) (by decide)
  exact ⟨steady, hfound, (reference _).mpr (Except.ok.inj (hfound.symm.trans hsearch))⟩

end Engine

end IndexSearch
