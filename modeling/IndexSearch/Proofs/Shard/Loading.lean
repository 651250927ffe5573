import IndexSearch.Proofs.Shard.RoundTrip
import IndexSearch.Proofs.Steps
import IndexSearch.Proofs.Table
import IndexSearch.Shard.Load
import Mathlib.Data.List.Permutation

/-!
# Loading what was written

A shard file holds the entries of its tables in any order, with entries among them that later ones
replace, and any bytes after them. Loading it gives the look-ups that the entries have in memory.
An engine over files searches as the engine over their tables does, and the first file that cannot
be loaded decides the failure.
-/

namespace IndexSearch

/-- Entries that leave the same tables behind as others that were written. -/
structure ShardEntries.SameTables (entries written : ShardEntries) : Prop where
  terms : ∀ term, lastValue? entries.terms term = lastValue? written.terms term
  docs : ∀ id, lastValue? entries.docs id = lastValue? written.docs id

/-- Entries without repeated keys may be written in any order. -/
theorem ShardEntries.SameTables.of_perm {entries written : ShardEntries}
    (termKeys : (entries.terms.map Prod.fst).Nodup) (terms : entries.terms.Perm written.terms)
    (docKeys : (entries.docs.map Prod.fst).Nodup) (docs : entries.docs.Perm written.docs) :
    entries.SameTables written :=
  ⟨lastValue?_perm termKeys terms, lastValue?_perm docKeys docs⟩

/-- A file that begins with the tables of some entries. What is written takes fewer than 2^64
bytes, as all that a machine can hold does. -/
def FileSystem.HoldsTables (files : FileSystem) (path : Text) (entries : ShardEntries) : Prop :=
  ∃ written trailing, entries.SameTables written ∧
    (ShardFormat.encode written).length < UInt64.size ∧
    files.read path = .ok (ShardFormat.encode written ++ trailing)

namespace Shard

/-- Two shards of the same sizes and with the same look-ups. -/
structure Agrees (shard other : Shard) : Prop where
  termCount : shard.termCount = other.termCount
  documentCount : shard.documentCount = other.documentCount
  postings? : ∀ term, shard.postings? term = other.postings? term
  name? : ∀ id, shard.name? id = other.name? id

theorem agrees_of_sameTables {entries written : ShardEntries} (same : entries.SameTables written) :
    (ofEntries written).Agrees (ofEntries entries) := by
  have hterms (term) : (ofEntries written).postings? term = (ofEntries entries).postings? term := by
    simp only [postings?, ofEntries, Table.get?_ofList, same.terms]
  have hdocs (id) : (ofEntries written).name? id = (ofEntries entries).name? id := by
    simp only [name?, ofEntries, Table.get?_ofList, same.docs]
  exact ⟨Table.size_eq_of_get?_eq hterms, Table.size_eq_of_get?_eq hdocs, hterms, hdocs⟩

/-- A reader sees no more of a shard than its look-ups. -/
theorem Agrees.reader_eq {shard other : Shard} (agrees : shard.Agrees other) :
    Reader.ofShard shard = Reader.ofShard other := by
  have hpostings : shard.postings? = other.postings? := funext agrees.postings?
  have hname : shard.name? = other.name? := funext agrees.name?
  simp only [Reader.ofShard, hpostings, hname]

theorem load_of_holdsTables {files : FileSystem} {path : Text} {entries : ShardEntries}
    (holds : files.HoldsTables path entries) :
    ∃ shard, load files path = .ok shard ∧ shard.Agrees (ofEntries entries) := by
  obtain ⟨written, trailing, same, short, hread⟩ := holds
  refine ⟨ofEntries written, ?_, agrees_of_sameTables same⟩
  simp only [load, hread, ShardFormat.decode_encode short trailing]

/-- The files of a sequence of tables load one after the other. -/
theorem mapM_load_of_holdsTables {files : FileSystem} {tables : List (Text × ShardEntries)}
    (holds : ∀ table ∈ tables, files.HoldsTables table.1 table.2) :
    ∃ shards, (tables.map Prod.fst).mapM (load files) = .ok shards ∧
      shards.map Reader.ofShard = tables.map fun table => .ofShard (ofEntries table.2) := by
  induction tables with
  | nil => exact ⟨[], rfl, rfl⟩
  | cons table tables ih =>
    obtain ⟨shard, hload, hagrees⟩ := load_of_holdsTables (holds table List.mem_cons_self)
    obtain ⟨shards, hloads, hreaders⟩ :=
      ih fun other hother => holds other (List.mem_cons_of_mem table hother)
    refine ⟨shard :: shards, ?_, ?_⟩
    · simp [List.mapM_cons, hload, hloads, bind, Except.bind, pure, Except.pure]
    · rw [List.map_cons, List.map_cons, hreaders, hagrees.reader_eq]

/-- Nothing after a failure is looked at. -/
theorem mapM_load_of_failed {files : FileSystem} {before : List Text} {path : Text}
    {fault : ShardFault} (loaded : ∀ path ∈ before, ∃ shard, load files path = .ok shard)
    (failed : load files path = .error fault) (later : List Text) :
    (before ++ path :: later).mapM (load files) = .error fault := by
  induction before with
  | nil => simp [List.mapM_cons, failed, bind, Except.bind]
  | cons first before ih =>
    obtain ⟨shard, hload⟩ := loaded first List.mem_cons_self
    have hrest := ih fun other hother => loaded other (List.mem_cons_of_mem first hother)
    simp [List.mapM_cons, hload, hrest, bind, Except.bind]

/-- Where some file fails to load, there is a first one that does. -/
theorem exists_first_failed {files : FileSystem} {paths : List Text} {path : Text}
    {fault : ShardFault} (hmem : path ∈ paths) (failed : load files path = .error fault) :
    ∃ before first later cause, paths = before ++ first :: later ∧
      (∀ path ∈ before, ∃ shard, load files path = .ok shard) ∧
      load files first = .error cause := by
  induction paths with
  | nil => exact absurd hmem List.not_mem_nil
  | cons first paths ih =>
    cases hload : load files first with
    | error cause => exact ⟨[], first, paths, cause, rfl, by simp, hload⟩
    | ok shard =>
      have hrest : path ∈ paths := by
        refine (List.mem_cons.mp hmem).resolve_left fun heq => ?_
        rw [heq, hload] at failed
        cases failed
      obtain ⟨before, middle, later, cause, hpaths, hloaded, hfailed⟩ := ih hrest
      refine ⟨first :: before, middle, later, cause, by rw [hpaths]; rfl, ?_, hfailed⟩
      exact List.forall_mem_cons.mpr ⟨⟨shard, hload⟩, hloaded⟩

end Shard

namespace Engine

theorem ofReaders_of_ne_nil {readers : List Reader} (h : readers ≠ []) :
    ofReaders readers = .ok ⟨readers, h⟩ :=
  dif_neg h

theorem load_of_ne_nil {files : FileSystem} {paths : List Text} (h : paths ≠ []) :
    load files paths = (do
      let shards ← (paths.mapM (Shard.load files)).mapError .shard
      (ofReaders (shards.map Reader.ofShard)).mapError .breach) := by
  rw [load, if_neg (by simpa using h)]

/-- Over some files at least, loading an engine fails at a file or gives one over their shards. -/
theorem load_cases (files : FileSystem) {paths : List Text} (nonempty : paths ≠ []) :
    (∃ fault, load files paths = .error (.shard fault)) ∨
      ∃ engine, ∃ shards : List Shard, load files paths = .ok engine ∧
        engine.readers = shards.map Reader.ofShard := by
  rw [load_of_ne_nil nonempty]
  cases hloads : paths.mapM (Shard.load files) with
  | error fault => exact Or.inl ⟨fault, rfl⟩
  | ok shards =>
    have hreaders : shards.map Reader.ofShard ≠ [] := by
      have hlength := length_of_mapM_eq_ok hloads
      have hpaths := List.length_pos_iff.mpr nonempty
      rw [← List.length_pos_iff, List.length_map]
      omega
    refine Or.inr ⟨⟨_, hreaders⟩, shards, ?_, rfl⟩
    simp only [Except.mapError, bind, Except.bind, ofReaders_of_ne_nil hreaders]

/-- Loading shards refines making them in memory. A file of some entries gives a shard with the
sizes and look-ups of the entries. An engine over files gives the answers of the engine over their
entries. Where files fail, the first failure is reported and what follows it does not matter. -/
theorem load_refines (files : FileSystem) :
    (∀ path entries, files.HoldsTables path entries →
      ∃ shard, Shard.load files path = .ok shard ∧ shard.Agrees (.ofEntries entries)) ∧
    (∀ tables : List (Text × ShardEntries), tables ≠ [] →
      (∀ table ∈ tables, files.HoldsTables table.1 table.2) →
      ∃ loaded built, load files (tables.map Prod.fst) = .ok loaded ∧
        ofReaders (tables.map fun table => .ofShard (.ofEntries table.2)) = .ok built ∧
        ∀ terms, loaded.search terms = built.search terms) ∧
    ∀ paths path fault, path ∈ paths → Shard.load files path = .error fault →
      ∃ before first later cause, paths = before ++ first :: later ∧
        (∀ path ∈ before, ∃ shard, Shard.load files path = .ok shard) ∧
        Shard.load files first = .error cause ∧
        ∀ others, load files (before ++ first :: others) = .error (.shard cause) := by
  refine ⟨fun path entries => Shard.load_of_holdsTables, ?_, ?_⟩
  · intro tables hne holds
    obtain ⟨shards, hloads, hreaders⟩ := Shard.mapM_load_of_holdsTables holds
    have hbuilt : (tables.map fun table => Reader.ofShard (.ofEntries table.2)) ≠ [] := by
      simpa using hne
    refine ⟨_, _, ?_, ofReaders_of_ne_nil hbuilt, fun _ => rfl⟩
    rw [load_of_ne_nil (by simpa using hne), hloads]
    simp only [Except.mapError, bind, Except.bind, hreaders, ofReaders_of_ne_nil hbuilt]
  · intro paths path fault hmem hfault
    obtain ⟨before, first, later, cause, hpaths, hloaded, hfailed⟩ :=
      Shard.exists_first_failed hmem hfault
    refine ⟨before, first, later, cause, hpaths, hloaded, hfailed, fun others => ?_⟩
    rw [load_of_ne_nil (by simp), Shard.mapM_load_of_failed hloaded hfailed]
    rfl

end Engine

namespace ShardEntries

def orderly : ShardEntries where
  terms := [("fox".toList, [⟨1, 4⟩, ⟨2, 1⟩]), ("é".toList, [])]
  docs := [(1, "a.txt".toList), (300, "b.txt".toList)]

def reordered : ShardEntries where
  terms := [("é".toList, []), ("fox".toList, [⟨1, 4⟩, ⟨2, 1⟩])]
  docs := [(300, "b.txt".toList), (1, "a.txt".toList)]

def replaced : ShardEntries where
  terms := [("fox".toList, [⟨7, 7⟩]), ("fox".toList, [⟨1, 4⟩, ⟨2, 1⟩]), ("é".toList, [])]
  docs := orderly.docs

end ShardEntries

/-- Two files of the same tables, of which one goes on after them. -/
def FileSystem.twoFiles : FileSystem where
  entries := [(["one".toList], .file (ShardFormat.encode .reordered ++ [255, 0])),
    (["two".toList], .file (ShardFormat.encode .replaced))]
  workingDir := []
  workingDir_isChain := rfl

namespace Engine

open ShardEntries FileSystem

/-- Both files give the tables, on their own and in an engine. A longer list of paths fails with the
missing file between them. -/
theorem load_refines_reordered :
    (∃ shard, Shard.load twoFiles "two".toList = .ok shard ∧
      shard.termCount = 2 ∧ shard.postings? "fox".toList = some [⟨1, 4⟩, ⟨2, 1⟩]) ∧
    (∃ loaded built, load twoFiles ["one".toList, "two".toList] = .ok loaded ∧
      ofReaders [.ofShard (.ofEntries .orderly), .ofShard (.ofEntries .orderly)] = .ok built ∧
      ∀ terms, loaded.search terms = built.search terms) ∧
    load twoFiles ["one".toList, "none".toList, "two".toList, "gone".toList] =
      .error (.shard (.unreadable "none".toList (.path .notFound))) := by
  have hreordered : orderly.SameTables reordered :=
    .of_perm (by decide) (.swap _ _ _) (by decide) (.swap _ _ _)
  have hreplaced : orderly.SameTables replaced := by
    refine ⟨fun term => ?_, fun _ => rfl⟩
    by_cases hfox : ['f', 'o', 'x'] = term
    · subst hfox
      rfl
    · simp [lastValue?, orderly, replaced, hfox]
  have hone : twoFiles.HoldsTables "one".toList orderly :=
    ⟨reordered, [255, 0], hreordered, by cbv, by cbv⟩
  have htwo : twoFiles.HoldsTables "two".toList orderly :=
    ⟨replaced, [], hreplaced, by cbv, by cbv⟩
  have hnone : Shard.load twoFiles "none".toList =
      .error (.unreadable "none".toList (.path .notFound)) := by cbv
  obtain ⟨refined, answered, failed⟩ := load_refines twoFiles
  refine ⟨?_, ?_, ?_⟩
  · obtain ⟨shard, hload, hagrees⟩ := refined _ _ htwo
    exact ⟨shard, hload, hagrees.termCount.trans (by decide),
      (hagrees.postings? _).trans (by decide)⟩
  · exact answered [("one".toList, orderly), ("two".toList, orderly)] (List.cons_ne_nil _ _)
      (List.forall_mem_cons.mpr ⟨hone, List.forall_mem_singleton.mpr htwo⟩)
  · obtain ⟨before, first, later, cause, hpaths, hloaded, hfailed, hothers⟩ :=
      failed ["one".toList, "none".toList, "two".toList, "gone".toList] "none".toList _
        (by decide) hnone
    obtain ⟨shard, hload, -⟩ := refined _ _ hone
    rw [hpaths, hothers later]
    -- The first path loads and the second does not, so the second is the one that decides.
    rcases before with _ | ⟨_, _ | ⟨_, before⟩⟩
    · obtain ⟨rfl, -⟩ := List.cons.inj hpaths
      cases hload.symm.trans hfailed
    · obtain ⟨rfl, -⟩ := List.cons.inj (List.cons.inj hpaths).2
      rw [Except.error.inj (hfailed.symm.trans hnone)]
    · obtain ⟨rfl, -⟩ := List.cons.inj (List.cons.inj hpaths).2
      obtain ⟨shard, hshard⟩ := hloaded "none".toList (by simp)
      cases hshard.symm.trans hnone

end Engine

end IndexSearch
