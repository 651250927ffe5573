import IndexSearch.Proofs.Search.Reference
import Mathlib.Algebra.BigOperators.Group.List.Basic

/-!
# Order of presentation

A search is given its terms in some order, and an engine its shards. Neither order leaves a trace
in the answer, although the first term is treated differently from the others: the documents with
all terms, the sum of their frequencies and the order of the hits are the same for every
arrangement. So the answer over some shards is the answers over any two parts of them, merged.

A shard that is given twice is searched twice. Readers are taken to answer every look-up.
-/

namespace IndexSearch

namespace Hit

theorem sort_eq_of_perm {hits others : List Hit} (perm : hits.Perm others) :
    sort hits = sort others := by
  apply ascending_unique (sort_ascends hits) (sort_ascends others)
  exact (sort_perm hits).trans (perm.trans (sort_perm others).symm)

theorem perm_of_entries_eq {hits others : List Hit}
    (h : (hits.map entry : Multiset (Text × Nat)) = others.map entry) : hits.Perm others :=
  (List.map_perm_map_iff entry_injective).mp (Multiset.coe_eq_coe.mp h)

theorem merge_ascends {hits others : List Hit} (hascends : hits.Pairwise Precedes)
    (oascends : others.Pairwise Precedes) : (hits.merge others le).Pairwise Precedes := by
  apply pairwise_le_iff.mp
  apply List.pairwise_merge le_trans le_total
  · exact pairwise_le_iff.mpr hascends
  · exact pairwise_le_iff.mpr oascends

theorem sort_append (hits others : List Hit) :
    sort (hits ++ others) = (sort hits).merge (sort others) le := by
  apply ascending_unique (sort_ascends _)
  · exact merge_ascends (sort_ascends hits) (sort_ascends others)
  · have hmerged : ((sort hits).merge (sort others) le).Perm (sort hits ++ sort others) :=
      List.merge_perm_append le
    have hsorted := (sort_perm hits).append (sort_perm others)
    exact (sort_perm _).trans (hmerged.trans hsorted).symm

end Hit

namespace Reader

variable {terms others : List Text}

/-- The documents with all terms do not depend on the order of the terms. -/
theorem matching_of_perm (reader : Reader) (order : terms.Perm others) :
    reader.matching terms = reader.matching others := by
  ext id
  simp only [matching, Finset.mem_filter_univ]
  constructor
  · intro h term hmem
    exact h term (order.mem_iff.mpr hmem)
  · intro h term hmem
    exact h term (order.mem_iff.mp hmem)

/-- A rank is a sum, in which the order of the terms does not count. -/
theorem rankOf_of_perm (reader : Reader) (order : terms.Perm others) (id : DocId) :
    reader.rankOf terms id = reader.rankOf others id :=
  (order.map fun term => firstFrequency id (reader.postingsOf term)).sum_eq

theorem entries_of_perm (reader : Reader) (order : terms.Perm others) :
    reader.entries terms = reader.entries others := by
  have hrank : reader.rankOf terms = reader.rankOf others := by
    funext id
    exact reader.rankOf_of_perm order id
  rw [entries, entries, reader.matching_of_perm order, hrank]

end Reader

namespace Engine

/-- The names and ranks that a search finds in all shards together. -/
def entries (engine : Engine) (terms : List Text) : Multiset (Text × Nat) :=
  (engine.readers.map fun reader => reader.entries terms).sum

variable {terms others : List Text}

theorem entries_of_perm {engine other : Engine} (shards : engine.readers.Perm other.readers)
    (order : terms.Perm others) : engine.entries terms = other.entries others := by
  have hterms : (fun reader : Reader => reader.entries terms) =
      fun reader => reader.entries others := by
    funext reader
    exact reader.entries_of_perm order
  rw [entries, entries, hterms]
  exact (shards.map fun reader => reader.entries others).sum_eq

/-- What is found in some shards is found in the two parts that they are divided into. -/
theorem entries_of_split {whole left right : Engine}
    (split : whole.readers.Perm (left.readers ++ right.readers)) (terms : List Text) :
    whole.entries terms = left.entries terms + right.entries terms := by
  have hsum := (split.map fun reader => reader.entries terms).sum_eq
  rw [List.map_append, List.sum_append] at hsum
  exact hsum

theorem search_eq_sort_of_ne_nil (engine : Engine)
    (steady : ∀ reader ∈ engine.readers, reader.NeverFails) (nonempty : terms ≠ [])
    (short : terms.length ≤ 2 ^ 32 + 1) :
    ∃ hits, engine.search terms = .ok (Hit.sort hits) ∧
      (hits.map Hit.entry : Multiset (Text × Nat)) = engine.entries terms := by
  cases terms with
  | nil => exact False.elim (nonempty rfl)
  | cons first others => exact engine.search_eq_sort first others steady short

/-- A search has the same answer for every order of its terms and of the shards. For any division
of the shards among two engines it is the ascending list of what these find, with every hit as
often as the two find it together. -/
theorem search_presentation (engine : Engine) (terms : List Text)
    (steady : ∀ reader ∈ engine.readers, reader.NeverFails) (nonempty : terms ≠ [])
    (short : terms.length ≤ 2 ^ 32 + 1) :
    ∃ hits, engine.search terms = .ok hits ∧
      (∀ other : Engine, other.readers.Perm engine.readers →
        ∀ others, others.Perm terms → other.search others = .ok hits) ∧
      ∀ left right : Engine, engine.readers.Perm (left.readers ++ right.readers) →
        ∃ lefts rights, left.search terms = .ok lefts ∧ right.search terms = .ok rights ∧
          hits = lefts.merge rights Hit.le ∧ hits.Pairwise Hit.Precedes ∧
          (hits : Multiset Hit) = lefts + rights := by
  obtain ⟨hits, hsearch, hentries⟩ := engine.search_eq_sort_of_ne_nil steady nonempty short
  refine ⟨Hit.sort hits, hsearch, ?_, ?_⟩
  · intro other shards others order
    have hsteady : ∀ reader ∈ other.readers, reader.NeverFails := by
      intro reader hmem
      exact steady reader (shards.mem_iff.mp hmem)
    have hnonempty : others ≠ [] := by
      rintro rfl
      exact nonempty order.nil_eq.symm
    obtain ⟨found, hfound, hothers⟩ :=
      other.search_eq_sort_of_ne_nil hsteady hnonempty (order.length_eq ▸ short)
    have hperm : found.Perm hits := by
      apply Hit.perm_of_entries_eq
      rw [hothers, hentries]
      exact entries_of_perm shards order
    rw [hfound, Hit.sort_eq_of_perm hperm]
  · intro left right split
    have hsteady : ∀ reader ∈ left.readers ++ right.readers, reader.NeverFails := by
      intro reader hmem
      exact steady reader (split.mem_iff.mpr hmem)
    obtain ⟨lefts, hleft, hlefts⟩ := left.search_eq_sort_of_ne_nil
      (fun reader hmem => hsteady reader (List.mem_append_left _ hmem)) nonempty short
    obtain ⟨rights, hright, hrights⟩ := right.search_eq_sort_of_ne_nil
      (fun reader hmem => hsteady reader (List.mem_append_right _ hmem)) nonempty short
    have hperm : hits.Perm (lefts ++ rights) := by
      apply Hit.perm_of_entries_eq
      rw [hentries, List.map_append, ← Multiset.coe_add, hlefts, hrights]
      exact entries_of_split split terms
    refine ⟨_, _, hleft, hright, ?_, Hit.sort_ascends hits, ?_⟩
    · rw [Hit.sort_eq_of_perm hperm, Hit.sort_append]
    · have hsorted := (Hit.sort_perm lefts).append (Hit.sort_perm rights)
      rw [Multiset.coe_add, Multiset.coe_eq_coe]
      exact (Hit.sort_perm hits).trans (hperm.trans hsorted.symm)

def north : Reader :=
  .ofShard (Shard.ofEntries {
    terms := [("a".toList, [⟨1, 2⟩, ⟨2, 1⟩]), ("b".toList, [⟨2, 5⟩, ⟨1, 1⟩])]
    docs := [(1, "m".toList), (2, "k".toList)] })

def middle : Reader :=
  .ofShard (Shard.ofEntries { terms := [("a".toList, [⟨9, 1⟩])], docs := [(9, "l".toList)] })

def south : Reader :=
  .ofShard (Shard.ofEntries {
    terms := [("a".toList, [⟨1, 1⟩]), ("b".toList, [⟨1, 7⟩, ⟨1, 3⟩])]
    docs := [(1, "l".toList)] })

/-- The hits of the last shard go between those of the other two, wherever it stands. -/
theorem search_presentation_scattered :
    let whole : Engine := ⟨[north, middle, south], List.cons_ne_nil _ _⟩
    let turned : Engine := ⟨[south, north, middle], List.cons_ne_nil _ _⟩
    let left : Engine := ⟨[middle, north], List.cons_ne_nil _ _⟩
    let right : Engine := ⟨[south], List.cons_ne_nil _ _⟩
    let hits : List Hit := [⟨"k".toList, 6⟩, ⟨"l".toList, 8⟩, ⟨"m".toList, 3⟩]
    (∀ reader ∈ whole.readers, reader.NeverFails) ∧
      turned.readers.Perm whole.readers ∧ whole.readers.Perm (left.readers ++ right.readers) ∧
      whole.search ["a".toList, "b".toList] = .ok hits ∧
      turned.search ["b".toList, "a".toList] = .ok hits ∧
      left.search ["a".toList, "b".toList] = .ok [⟨"k".toList, 6⟩, ⟨"m".toList, 3⟩] ∧
      right.search ["a".toList, "b".toList] = .ok [⟨"l".toList, 8⟩] ∧
      hits = [⟨"k".toList, 6⟩, ⟨"m".toList, 3⟩].merge [⟨"l".toList, 8⟩] Hit.le := by
  intro whole turned left right hits
  have steady : ∀ reader ∈ whole.readers, reader.NeverFails := by
    intro reader hmem
    simp only [whole, List.mem_cons, List.not_mem_nil, or_false] at hmem
    rcases hmem with rfl | rfl | rfl <;> exact Reader.neverFails_ofShard _
  have turning : turned.readers.Perm whole.readers :=
    show ([south] ++ [north, middle]).Perm ([north, middle] ++ [south]) from
      List.perm_append_comm
  have split : whole.readers.Perm (left.readers ++ right.readers) := .swap _ _ _
  have hwhole : whole.search ["a".toList, "b".toList] = .ok hits := by cbv
  have hleft : left.search ["a".toList, "b".toList] =
      .ok [⟨"k".toList, 6⟩, ⟨"m".toList, 3⟩] := by cbv
  have hright : right.search ["a".toList, "b".toList] = .ok [⟨"l".toList, 8⟩] := by cbv
  obtain ⟨found, hfound, hturned, hsplit⟩ :=
    search_presentation whole ["a".toList, "b".toList] steady (List.cons_ne_nil _ _) (by decide)
  obtain rfl : hits = found := Except.ok.inj (hwhole.symm.trans hfound)
  obtain ⟨lefts, rights, hlefts, hrights, hmerged, _⟩ := hsplit left right split
  obtain rfl := Except.ok.inj (hleft.symm.trans hlefts)
  obtain rfl := Except.ok.inj (hright.symm.trans hrights)
  exact ⟨steady, turning, split, hwhole, hturned turned turning _ (.swap _ _ _), hleft, hright,
    hmerged⟩

end Engine

end IndexSearch
