import IndexSearch.Table
import Mathlib.Data.List.Induction
import Mathlib.Data.List.Nodup

/-!
# What a table holds

A table that is made from a sequence of entries holds under each key the value of the last entry
with it, and no other entries. Two tables with the same values under all keys have the same number
of keys.
-/

namespace IndexSearch

variable {κ ν : Type} [DecidableEq κ]

def lastValue? (entries : List (κ × ν)) (key : κ) : Option ν :=
  (entries.filter fun entry => decide (entry.1 = key)).getLast?.map Prod.snd

theorem lastValue?_concat (entries : List (κ × ν)) (entry : κ × ν) (key : κ) :
    lastValue? (entries ++ [entry]) key =
      if entry.1 = key then some entry.2 else lastValue? entries key := by
  by_cases h : entry.1 = key <;> simp [lastValue?, List.filter_append, h]

theorem isSome_lastValue?_iff (entries : List (κ × ν)) (key : κ) :
    (lastValue? entries key).isSome ↔ key ∈ entries.map Prod.fst := by
  induction entries using List.reverseRecOn with
  | nil => simp [lastValue?]
  | append_singleton entries entry ih =>
    rw [lastValue?_concat, List.map_append, List.mem_append, ← ih]
    by_cases h : entry.1 = key
    · simp [h]
    · simp [h, Ne.symm h]

/-- Where no key occurs twice, every entry is the last one of its key. -/
theorem lastValue?_eq_some_iff {entries : List (κ × ν)} (keys : (entries.map Prod.fst).Nodup)
    (key : κ) (value : ν) : lastValue? entries key = some value ↔ (key, value) ∈ entries := by
  induction entries using List.reverseRecOn with
  | nil => simp [lastValue?]
  | append_singleton entries entry ih =>
    rw [List.map_append, List.nodup_append] at keys
    obtain ⟨hbefore, -, happart⟩ := keys
    rw [lastValue?_concat, List.mem_append, List.mem_singleton]
    split
    · rename_i heq
      have habsent : (key, value) ∉ entries := fun hmem =>
        happart key (List.mem_map_of_mem hmem) entry.1 (by simp) heq.symm
      simp [habsent, Prod.ext_iff, heq, eq_comm]
    · rename_i hne
      have hother : (key, value) ≠ entry := fun heq => hne (congrArg Prod.fst heq.symm)
      simp [ih hbefore, hother]

theorem lastValue?_perm {entries written : List (κ × ν)} (keys : (entries.map Prod.fst).Nodup)
    (perm : entries.Perm written) (key : κ) : lastValue? entries key = lastValue? written key := by
  refine Option.ext fun value => ?_
  rw [lastValue?_eq_some_iff keys, lastValue?_eq_some_iff ((perm.map Prod.fst).nodup keys),
    perm.mem_iff]

namespace Table

theorem ofList_concat (entries : List (κ × ν)) (entry : κ × ν) :
    ofList (entries ++ [entry]) = (ofList entries).insert entry.1 entry.2 := by
  rw [ofList, List.foldl_concat]
  rfl

/-- A table keeps some of the entries that it was made from, the newest first. -/
theorem entries_ofList_sublist (entries : List (κ × ν)) :
    (ofList entries).entries.Sublist entries.reverse := by
  induction entries using List.reverseRecOn with
  | nil => exact List.Sublist.refl []
  | append_singleton entries entry ih =>
    rw [ofList_concat, List.reverse_append]
    exact (List.filter_sublist.trans ih).cons_cons entry

theorem get?_ofList (entries : List (κ × ν)) (key : κ) :
    (ofList entries).get? key = lastValue? entries key := by
  induction entries using List.reverseRecOn with
  | nil => rfl
  | append_singleton entries entry ih =>
    rw [ofList_concat, get?_insert, lastValue?_concat, ih]

theorem mem_keys_iff (table : Table κ ν) (key : κ) :
    key ∈ table.entries.map Prod.fst ↔ (table.get? key).isSome := by
  rw [get?, Option.isSome_map, List.find?_isSome]
  simp only [List.mem_map, decide_eq_true_eq]

/-- A table is as large as any other with the same values. -/
theorem size_eq_of_get?_eq {table other : Table κ ν}
    (h : ∀ key, table.get? key = other.get? key) : table.size = other.size := by
  have hperm : (table.entries.map Prod.fst).Perm (other.entries.map Prod.fst) := by
    refine (List.perm_ext_iff_of_nodup table.nodup_keys other.nodup_keys).mpr fun key => ?_
    rw [mem_keys_iff, mem_keys_iff, h]
  simpa [size] using hperm.length_eq

end Table

end IndexSearch
