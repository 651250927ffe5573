import IndexSearch.Proofs.Search.Reference

/-!
# Ranks without overflow

A shard is searched term by term, and with each term the ranks of the candidates grow by a
frequency. A stage is what the search has in hand between two terms. Up to 2 ^ 32 + 1 terms every
rank is the sum of its frequencies as a natural number, and no addition on the way overflows. One
term more can be too many, since (2 ^ 32 + 1) * (2 ^ 32 - 1) is the greatest number of 64 bits.

Readers are taken to answer every look-up.
-/

namespace IndexSearch

theorem toNat_of_frequency? {postings : List Posting} {id : DocId} {frequency : UInt32}
    (h : frequency? postings id = some frequency) :
    frequency.toNat = firstFrequency id postings := by
  induction postings with
  | nil => simp [frequency?] at h
  | cons posting rest ih =>
    by_cases hid : posting.docId = id
    · simp only [frequency?, List.find?_cons, hid, decide_true, Option.map_some,
        Option.some.injEq] at h
      rw [firstFrequency, if_pos hid, h]
    · simp only [frequency?, List.find?_cons, hid, decide_false] at h
      rw [firstFrequency, if_neg hid]
      exact ih h

namespace Reader

variable {reader : Reader} {first : Text} {others counted left : List Text}
  {candidates : MatchList Candidate}

/-- A stage of a search for a first term and others: the terms counted so far, the candidates that
have them, and the terms still to be looked up. A term that is unknown ends the search, and so does
one that leaves no candidate. -/
inductive Stage (reader : Reader) (first : Text) (others : List Text) :
    List Text → MatchList Candidate → List Text → Prop
  | first {postings : List Posting} (known : reader.postings first = .ok (some postings)) :
    Stage reader first others [first] (Candidate.ofPostings postings) others
  | unknownFirst (unknown : reader.postings first = .ok none) :
    Stage reader first others [first] .empty []
  | next {counted terms : List Text} {candidates : MatchList Candidate} {term : Text}
      {postings : List Posting}
      (before : Stage reader first others counted candidates (term :: terms))
      (known : reader.postings term = .ok (some postings)) :
    Stage reader first others (counted ++ [term]) (candidates.sweep (Candidate.count? postings)).1
      (if (candidates.sweep (Candidate.count? postings)).2 then [] else terms)
  | unknown {counted terms : List Text} {candidates : MatchList Candidate} {term : Text}
      (before : Stage reader first others counted candidates (term :: terms))
      (unknown : reader.postings term = .ok none) :
    Stage reader first others (counted ++ [term]) .empty []

/-- A search adds the frequency that a document has in a further term to the rank that it has from
those before. -/
def Adds (reader : Reader) (first : Text) (others : List Text) (rank : UInt64)
    (frequency : UInt32) : Prop :=
  ∃ counted candidates term terms postings candidate,
    Stage reader first others counted candidates (term :: terms) ∧
      reader.postings term = .ok (some postings) ∧ candidate ∈ candidates.items ∧
      candidate.rank = rank ∧ frequency? postings candidate.docId = some frequency

/-- From every stage the search goes on to its result. -/
theorem Stage.narrow_eq (stage : Stage reader first others counted candidates left) :
    reader.narrow candidates left = reader.candidates first others := by
  induction stage with
  | first known => simp only [Reader.candidates, known, bind, Except.bind]
  | unknownFirst unknown => simp only [Reader.candidates, unknown, bind, Except.bind, narrow]
  | next before known ih =>
    rw [← ih, narrow, known]
    simp only [bind, Except.bind]
    split <;> rfl
  | unknown before unknown ih =>
    rw [← ih, narrow, narrow, unknown]
    rfl

theorem exists_last_of_stage (steady : reader.NeverFails)
    (stage : Stage reader first others counted candidates left) :
    ∃ counted candidates, Stage reader first others counted candidates [] := by
  induction left generalizing counted candidates with
  | nil => exact ⟨counted, candidates, stage⟩
  | cons term terms ih =>
    obtain ⟨found, hfound⟩ := steady term
    cases found with
    | none => exact ⟨_, _, stage.unknown hfound⟩
    | some postings =>
      have hnext := stage.next hfound
      cases hswept : (candidates.sweep (Candidate.count? postings)).2 with
      | true =>
        rw [if_pos hswept] at hnext
        exact ⟨_, _, hnext⟩
      | false =>
        rw [if_neg (by simp [hswept])] at hnext
        exact ih hnext

/-- A search comes to a last stage, and its candidates are the result. -/
theorem exists_last_stage (steady : reader.NeverFails) (first : Text) (others : List Text) :
    ∃ counted candidates, Stage reader first others counted candidates [] ∧
      reader.candidates first others = .ok candidates := by
  have hlast : ∃ counted candidates, Stage reader first others counted candidates [] := by
    obtain ⟨found, hfound⟩ := steady first
    cases found with
    | none => exact ⟨_, _, .unknownFirst hfound⟩
    | some postings => exact exists_last_of_stage steady (.first hfound)
  obtain ⟨counted, candidates, hstage⟩ := hlast
  exact ⟨counted, candidates, hstage, hstage.narrow_eq.symm⟩

theorem Stage.isPrefix (stage : Stage reader first others counted candidates left) :
    counted ++ left <+: first :: others := by
  induction stage with
  | first known => exact List.prefix_rfl
  | unknownFirst unknown => exact ⟨others, rfl⟩
  | next before known ih =>
    refine List.IsPrefix.trans ?_ ih
    rw [List.append_assoc, List.prefix_append_right_inj]
    split
    · exact ⟨_, rfl⟩
    · exact List.prefix_rfl
  | unknown before unknown ih =>
    refine List.IsPrefix.trans ?_ ih
    rw [List.append_assoc, List.prefix_append_right_inj]
    exact ⟨_, rfl⟩

/-- As long as there are candidates no term is passed over. -/
theorem Stage.counted_append_left (stage : Stage reader first others counted candidates left)
    (some_left : candidates.items ≠ []) : counted ++ left = first :: others := by
  induction stage with
  | first known => rfl
  | unknownFirst unknown => exact absurd rfl some_left
  | next before known ih =>
    rename_i before_items _ postings
    have hkept : (before_items.sweep (Candidate.count? postings)).2 ≠ true := by
      intro hemptied
      exact some_left (MatchList.sweep_emptied _ _ hemptied)
    rw [if_neg hkept, List.append_assoc]
    apply ih
    intro hnone
    apply some_left
    rw [MatchList.sweep_items, hnone]
    rfl
  | unknown before unknown ih => exact absurd rfl some_left

theorem rankOf_concat (terms : List Text) (term : Text) (id : DocId) :
    reader.rankOf (terms ++ [term]) id =
      reader.rankOf terms id + firstFrequency id (reader.postingsOf term) := by
  simp [rankOf]

/-- The rank of a candidate is the sum of its frequencies in the terms counted. -/
theorem Stage.rank_eq (stage : Stage reader first others counted candidates left)
    (short : counted.length ≤ 2 ^ 32 + 1) :
    ∀ candidate ∈ candidates.items,
      candidate.rank.toNat = reader.rankOf counted candidate.docId := by
  induction stage with
  | first known =>
    intro candidate hmem
    obtain ⟨posting, hposting, rfl⟩ := List.mem_map.mp hmem
    have hfrequency := frequency_of_mem_firstPostings hposting
    simp [rankOf, postingsOf_eq known, hfrequency]
  | unknownFirst unknown => exact fun _ hmem => absurd hmem List.not_mem_nil
  | next before known ih =>
    rename_i before_counted _ _ term postings
    rw [List.length_append, List.length_singleton] at short
    intro candidate hmem
    rw [MatchList.sweep_items] at hmem
    obtain ⟨old, hold, hcount⟩ := List.mem_filterMap.mp hmem
    have hrank := ih (by omega) old hold
    have hfits : reader.rankOf (before_counted ++ [term]) old.docId < 2 ^ 64 :=
      rankOf_lt (by simpa using short) old.docId
    rw [rankOf_concat, postingsOf_eq known] at hfits
    rw [Candidate.count?_eq] at hcount
    split at hcount
    · have hsmall : firstFrequency old.docId postings < 2 ^ 64 := by omega
      cases hcount
      rw [rankOf_concat, postingsOf_eq known, UInt64.toNat_add, hrank,
        UInt64.toNat_ofNat_of_lt' hsmall, Nat.mod_eq_of_lt hfits]
    · cases hcount
  | unknown before unknown ih => exact fun _ hmem => absurd hmem List.not_mem_nil

structure CountsExactly (reader : Reader) (first : Text) (others : List Text) : Prop where
  exact : ∀ counted candidates left, Stage reader first others counted candidates left →
    ∀ candidate ∈ candidates.items,
      candidate.rank.toNat = reader.rankOf counted candidate.docId
  bounded : ∀ counted candidates left, Stage reader first others counted candidates left →
    ∀ candidate ∈ candidates.items, candidate.rank.toNat ≤ counted.length * (2 ^ 32 - 1)
  fits : ∀ rank frequency, reader.Adds first others rank frequency →
    rank.toNat + frequency.toNat < 2 ^ 64
  /-- The stages are those of the search. -/
  completes : ∃ counted candidates, Stage reader first others counted candidates [] ∧
    reader.candidates first others = .ok candidates

theorem Stage.length_le (stage : Stage reader first others counted candidates left) :
    counted.length + left.length ≤ (first :: others).length := by
  rw [← List.length_append]
  exact stage.isPrefix.length_le

theorem countsExactly (steady : reader.NeverFails)
    (short : (first :: others).length ≤ 2 ^ 32 + 1) : reader.CountsExactly first others where
  exact counted candidates left stage := by
    have hlength := stage.length_le
    exact stage.rank_eq (by omega)
  bounded counted candidates left stage candidate hmem := by
    have hlength := stage.length_le
    rw [stage.rank_eq (by omega) candidate hmem]
    exact reader.rankOf_le counted candidate.docId
  fits rank frequency := by
    rintro ⟨counted, candidates, term, terms, postings, candidate, stage, known, hmem, rfl, hfound⟩
    have hlength := stage.length_le
    rw [List.length_cons] at hlength
    have hsum : reader.rankOf (counted ++ [term]) candidate.docId < 2 ^ 64 := by
      apply rankOf_lt
      rw [List.length_append, List.length_singleton]
      omega
    rw [rankOf_concat, postingsOf_eq known, ← toNat_of_frequency? hfound] at hsum
    rw [stage.rank_eq (by omega) candidate hmem]
    exact hsum
  completes := exists_last_stage steady first others

theorem rank_of_mem_hits (steady : reader.NeverFails)
    (short : (first :: others).length ≤ 2 ^ 32 + 1) {hits : List Hit}
    (found : reader.hits first others = .ok hits) {hit : Hit} (mem : hit ∈ hits) :
    ∃ id, reader.name id = some hit.name ∧
      hit.rank.toNat = reader.rankOf (first :: others) id := by
  obtain ⟨counted, candidates, stage, hcandidates⟩ := exists_last_stage steady first others
  rw [Reader.hits, hcandidates] at found
  cases found
  obtain ⟨candidate, hcandidate, hhit⟩ := List.mem_filterMap.mp mem
  obtain ⟨name, hname, rfl⟩ := Option.map_eq_some_iff.mp hhit
  have hcounted : counted ++ [] = first :: others :=
    stage.counted_append_left (List.ne_nil_of_mem hcandidate)
  rw [List.append_nil] at hcounted
  refine ⟨candidate.docId, hname, ?_⟩
  rw [stage.rank_eq (hcounted ▸ short) candidate hcandidate, hcounted]

/-- A shard with one document, whose frequency is the greatest one. -/
def heaviest : Shard :=
  .ofEntries { terms := [("a".toList, [⟨1, 4294967295⟩])], docs := [(1, "d".toList)] }

theorem postings_heaviest :
    (ofShard heaviest).postings "a".toList = .ok (some [⟨1, 4294967295⟩]) := by
  decide

theorem sweep_singleton {α : Type} {image : α → Option α} {value value' : α}
    (h : image value = some value') :
    (MatchList.sweep image ⟨[value]⟩) = (⟨[value']⟩, false) := by
  have hitems : (MatchList.sweep image ⟨[value]⟩).1.items = [value'] := by
    rw [MatchList.sweep_items, List.filterMap_cons_some h]
    rfl
  have hkept : (MatchList.sweep image ⟨[value]⟩).2 = false := by
    by_contra hemptied
    have hnone := MatchList.sweep_emptied image ⟨[value]⟩ (eq_true_of_ne_false hemptied)
    rw [hitems] at hnone
    cases hnone
  exact Prod.ext (congrArg MatchList.mk hitems) hkept

/-- Each further term adds the greatest frequency to the rank of the one document. -/
theorem stage_heaviest {n k : Nat} (h : k ≤ n) :
    Stage (ofShard heaviest) "a".toList (List.replicate n "a".toList)
      (List.replicate (k + 1) "a".toList) ⟨[⟨1, UInt64.ofNat ((k + 1) * (2 ^ 32 - 1))⟩]⟩
      (List.replicate (n - k) "a".toList) := by
  induction k with
  | zero => exact .first postings_heaviest
  | succ k ih =>
    have hleft : List.replicate (n - k) "a".toList =
        "a".toList :: List.replicate (n - (k + 1)) "a".toList := by
      rw [← List.replicate_succ]
      exact congrArg (List.replicate · "a".toList) (by omega)
    have hstage := ih (by omega)
    rw [hleft] at hstage
    have hnext := hstage.next postings_heaviest
    have hcount : Candidate.count? [⟨1, 4294967295⟩]
        ⟨1, UInt64.ofNat ((k + 1) * (2 ^ 32 - 1))⟩ =
          some ⟨1, UInt64.ofNat ((k + 1 + 1) * (2 ^ 32 - 1))⟩ := by
      rw [Nat.succ_mul (k + 1), UInt64.ofNat_add]
      rfl
    rw [sweep_singleton hcount, ← List.replicate_succ'] at hnext
    exact hnext

/-- With 2 ^ 32 + 2 terms the last addition goes beyond 64 bits. -/
theorem adds_heaviest :
    (ofShard heaviest).Adds "a".toList (List.replicate (2 ^ 32 + 1) "a".toList)
      (UInt64.ofNat ((2 ^ 32 + 1) * (2 ^ 32 - 1))) 4294967295 := by
  have hstage := stage_heaviest (Nat.le_succ (2 ^ 32))
  have hleft : List.replicate (2 ^ 32 + 1 - 2 ^ 32) "a".toList = ["a".toList] := by
    rw [Nat.add_sub_cancel_left]
    rfl
  rw [hleft] at hstage
  exact ⟨_, _, _, _, _, _, hstage, postings_heaviest, List.mem_singleton_self _, rfl, rfl⟩

end Reader

namespace Engine

/-- Up to 2 ^ 32 + 1 terms no rank in a search overflows on the way, and the ranks of the hits are
sums of frequencies. With one term more an addition can go beyond 64 bits. -/
theorem ranks_exact (engine : Engine) (first : Text) (others : List Text)
    (steady : ∀ reader ∈ engine.readers, reader.NeverFails)
    (short : (first :: others).length ≤ 2 ^ 32 + 1) :
    (∀ reader ∈ engine.readers, reader.CountsExactly first others) ∧
    (∃ hits, engine.search (first :: others) = .ok hits ∧
      ∀ hit ∈ hits, ∃ reader ∈ engine.readers, ∃ id, reader.name id = some hit.name ∧
        hit.rank.toNat = reader.rankOf (first :: others) id) ∧
    ∃ shard first others rank frequency, (first :: others).length = 2 ^ 32 + 2 ∧
      (Reader.ofShard shard).Adds first others rank frequency ∧
      2 ^ 64 - 1 < rank.toNat + frequency.toNat := by
  refine ⟨fun reader hmem => Reader.countsExactly (steady reader hmem) short, ?_, ?_⟩
  · obtain ⟨hits, hhits⟩ := mapM_hits_of_steady engine.readers steady first others
    refine ⟨Hit.sort hits.flatten, by simp [search, hhits, bind, Except.bind], ?_⟩
    intro hit hmem
    obtain ⟨found, hfound, hhit⟩ := List.mem_flatten.mp ((Hit.sort_perm _).mem_iff.mp hmem)
    obtain ⟨reader, hreader, hread⟩ := exists_of_mem_of_mapM_eq_ok hhits hfound
    obtain ⟨id, hname, hrank⟩ := Reader.rank_of_mem_hits (steady reader hreader) short hread hhit
    exact ⟨reader, hreader, id, hname, hrank⟩
  · refine ⟨Reader.heaviest, _, _, _, _, ?_, Reader.adds_heaviest, ?_⟩
    · rw [List.length_cons, List.length_replicate]
    · decide

def heavy : Engine where
  readers := [.ofShard Reader.heaviest]
  readers_ne_nil := List.cons_ne_nil _ _

/-- Twice the greatest frequency is the rank of a document that is asked for twice. -/
theorem ranks_exact_heavy :
    (∀ reader ∈ heavy.readers, reader.NeverFails) ∧
      heavy.search ["a".toList, "a".toList] = .ok [⟨"d".toList, 8589934590⟩] ∧
      ∃ reader ∈ heavy.readers, reader.CountsExactly "a".toList ["a".toList] ∧
        ∃ id, reader.name id = some "d".toList ∧
          reader.rankOf ["a".toList, "a".toList] id = 8589934590 := by
  have steady : ∀ reader ∈ heavy.readers, reader.NeverFails := by
    simp [heavy, Reader.neverFails_ofShard]
  have hfound : heavy.search ["a".toList, "a".toList] = .ok [⟨"d".toList, 8589934590⟩] := by cbv
  obtain ⟨hcounts, ⟨hits, hsearch, hranks⟩, -⟩ :=
    ranks_exact heavy "a".toList ["a".toList] steady (by decide)
  rw [hfound] at hsearch
  cases hsearch
  obtain ⟨reader, hreader, id, hname, hrank⟩ := hranks _ List.mem_cons_self
  exact ⟨steady, hfound, reader, hreader, hcounts reader hreader, id, hname, hrank.symm⟩

end Engine

end IndexSearch
