/-!
# Tables

A finite map as a list of entries, the newest first, in which no key occurs twice. Writing a key
again replaces its value.
-/

namespace IndexSearch

variable {κ ν : Type}

/-- A finite map from keys to values. -/
structure Table (κ ν : Type) where
  entries : List (κ × ν)
  nodup_keys : (entries.map Prod.fst).Nodup
deriving DecidableEq, Repr

namespace Table

def empty : Table κ ν :=
  ⟨[], List.nodup_nil⟩

variable [DecidableEq κ]

def entriesWithout (table : Table κ ν) (key : κ) : List (κ × ν) :=
  table.entries.filter fun entry => decide (entry.1 ≠ key)

theorem nodup_keys_cons_entriesWithout (table : Table κ ν) (key : κ) (value : ν) :
    (((key, value) :: table.entriesWithout key).map Prod.fst).Nodup := by
  rw [List.map_cons, List.nodup_cons]
  constructor
  · intro hmem
    obtain ⟨entry, hentry, heq⟩ := List.mem_map.mp hmem
    have := (List.mem_filter.mp hentry).2
    simp [heq] at this
  · exact table.nodup_keys.sublist (List.filter_sublist.map Prod.fst)

def insert (table : Table κ ν) (key : κ) (value : ν) : Table κ ν :=
  ⟨(key, value) :: table.entriesWithout key, table.nodup_keys_cons_entriesWithout key value⟩

/-- The table that a sequence of entries leaves behind; the last entry of a key wins. -/
def ofList (entries : List (κ × ν)) : Table κ ν :=
  entries.foldl (fun table entry => table.insert entry.1 entry.2) empty

def get? (table : Table κ ν) (key : κ) : Option ν :=
  (table.entries.find? fun entry => decide (entry.1 = key)).map Prod.snd

theorem find?_entriesWithout (table : Table κ ν) {key other : κ} (h : key ≠ other) :
    (table.entriesWithout key).find? (fun entry => decide (entry.1 = other))
      = table.entries.find? fun entry => decide (entry.1 = other) := by
  unfold entriesWithout
  induction table.entries with
  | nil => rfl
  | cons entry rest ih =>
    by_cases hkey : entry.1 = key
    · simpa [hkey, h] using ih
    · by_cases hother : entry.1 = other <;> simp_all

theorem get?_insert (table : Table κ ν) (key other : κ) (value : ν) :
    (table.insert key value).get? other
      = if key = other then some value else table.get? other := by
  by_cases h : key = other
  · simp [get?, insert, h]
  · simp only [get?, insert, h, if_false, List.find?_cons, decide_false]
    rw [find?_entriesWithout table h]

omit [DecidableEq κ] in
def size (table : Table κ ν) : Nat :=
  table.entries.length

end Table

end IndexSearch
