import IndexSearch.Proofs.Http.Requests
import IndexSearch.Proofs.Text.LowerCase
import Mathlib.Data.Finset.Card

/-!
# Header tables

The table of a request holds names in normal form and trimmed values. Both forms are left alone when
they are made again, whatever the names and values are made of, so the table is its own normal form
and a header is found under its normalised name only. Of the headers whose names have one normal
form the last one counts, and none of another form has a part in it.

A head sets a header for each of its lines that is one; which lines these are is not the subject
here.
-/

namespace IndexSearch.Request

/-- What a request is before headers are added to it. -/
inductive Origin where
  | root
  | path (asked : Text)
  | head (text : Text)

namespace Origin

def request : Origin → Request
  | .root => .ofPath rootPath
  | .path asked => .ofPath asked
  | .head text => .parse text

def headers : Origin → List (Text × Text)
  | .root | .path _ => []
  | .head text => (text.splitOnP isLineEnd).tail.filterMap cutHeader?

end Origin

def addHeaders (request : Request) (headers : List (Text × Text)) : Request :=
  headers.foldl (fun request header => request.addHeader header.1 header.2) request

/-- How the table of a request stands to the headers that were set, in their order. -/
structure Tabulates (request : Request) (headers : List (Text × Text)) : Prop where
  /-- Names and values are in the form that they have when they are normalised once more. -/
  canonical : ∀ entry ∈ request.headers.entries,
    Text.lower (Text.trim entry.1) = entry.1 ∧ Text.trim entry.2 = entry.2
  count : request.headerCount =
    (headers.map fun header => Text.lower (Text.trim header.1)).toFinset.card
  last : ∀ name, request.header? (Text.lower (Text.trim name)) =
    (headers.filter fun header =>
      decide (Text.lower (Text.trim header.1) = Text.lower (Text.trim name))).getLast?.map
        fun header => Text.trim header.2
  /-- Another header changes no value but that of its own name. -/
  others : ∀ name value other, other ≠ Text.lower (Text.trim name) →
    (request.addHeader name value).header? other = request.header? other
  absent : ∀ name, Text.lower (Text.trim name) ≠ name → request.header? name = none

theorem normaliseName_normaliseName (name : Text) :
    normaliseName (normaliseName name) = normaliseName name := by
  have htrimmed : Text.IsTrimmed (normaliseName name) := (Text.isTrimmed_trim name).lower
  calc normaliseName (normaliseName name)
      = Text.lower (normaliseName name) := by rw [normaliseName, Text.trim_of_isTrimmed htrimmed]
    _ = normaliseName name := Text.lower_lower (Text.trim name)

theorem trim_trim (value : Text) : Text.trim (Text.trim value) = Text.trim value :=
  Text.trim_of_isTrimmed (Text.isTrimmed_trim value)

def entryOf (header : Text × Text) : Text × Text :=
  (normaliseName header.1, Text.trim header.2)

theorem addHeaders_ofPath (path : Text) (headers : List (Text × Text)) :
    (ofPath path).addHeaders headers = ⟨path, .ofList (headers.map entryOf)⟩ := by
  rw [addHeaders, foldl_addHeader, Table.ofList, List.foldl_map]
  rfl

/-- A request is its path with headers added, also one that a head makes. -/
theorem Origin.exists_request_eq (origin : Origin) :
    ∃ path, origin.request = (ofPath path).addHeaders origin.headers := by
  cases origin with
  | root => exact ⟨rootPath, rfl⟩
  | path asked => exact ⟨asked, rfl⟩
  | head text =>
    cases hlines : text.splitOnP isLineEnd with
    | nil =>
      refine ⟨rootPath, ?_⟩
      simp only [request, parse, headers, hlines]
      rfl
    | cons first others =>
      refine ⟨pathOfLine first, ?_⟩
      simp only [request, parse, headers, hlines]
      rfl

section Entries

variable {path : Text} {headers : List (Text × Text)}

theorem canonical_of_mem {entry : Text × Text}
    (h : entry ∈ (Table.ofList (headers.map entryOf)).entries) :
    normaliseName entry.1 = entry.1 ∧ Text.trim entry.2 = entry.2 := by
  have hmem := (Table.entries_ofList_sublist (headers.map entryOf)).subset h
  obtain ⟨header, -, rfl⟩ := List.mem_map.mp (List.mem_reverse.mp hmem)
  exact ⟨normaliseName_normaliseName header.1, trim_trim header.2⟩

theorem mem_names_iff (name : Text) :
    name ∈ (Table.ofList (headers.map entryOf)).entries.map Prod.fst ↔
      name ∈ headers.map fun header => normaliseName header.1 := by
  rw [Table.mem_keys_iff, Table.get?_ofList, isSome_lastValue?_iff, List.map_map]
  rfl

theorem size_entries : (Table.ofList (headers.map entryOf)).size =
    (headers.map fun header => normaliseName header.1).toFinset.card := by
  have hnames : ((Table.ofList (headers.map entryOf)).entries.map Prod.fst).toFinset =
      (headers.map fun header => normaliseName header.1).toFinset := by
    ext name
    rw [List.mem_toFinset, List.mem_toFinset, mem_names_iff]
  rw [← hnames, List.toFinset_card_of_nodup (Table.nodup_keys _), List.length_map]
  rfl

theorem lastValue?_entries (name : Text) :
    lastValue? (headers.map entryOf) name =
      (headers.filter fun header => decide (normaliseName header.1 = name)).getLast?.map
        fun header => Text.trim header.2 := by
  rw [lastValue?, List.filter_map, List.getLast?_map, Option.map_map]
  rfl

theorem tabulates_ofList :
    Tabulates ⟨path, .ofList (headers.map entryOf)⟩ headers where
  canonical _ h := canonical_of_mem h
  count := size_entries
  last name := (Table.get?_ofList _ _).trans (lastValue?_entries (normaliseName name))
  others name value other hother := by
    have hname : ¬ normaliseName name = other := Ne.symm hother
    rw [header?, addHeader, Table.get?_insert, if_neg hname]
    rfl
  absent name hname := by
    by_contra hsome
    have hmem := (Table.mem_keys_iff _ name).mpr (Option.isSome_iff_ne_none.mpr hsome)
    obtain ⟨entry, hentry, rfl⟩ := List.mem_map.mp hmem
    exact hname (canonical_of_mem hentry).1

end Entries

/-- However a request was made, and whatever headers are added to it, its table holds the headers
set so far under their normal forms and nothing else. -/
theorem addHeaders_tabulates (origin : Origin) (additions : List (Text × Text)) :
    (origin.request.addHeaders additions).Tabulates (origin.headers ++ additions) := by
  obtain ⟨path, hrequest⟩ := origin.exists_request_eq
  have hall : origin.request.addHeaders additions =
      (ofPath path).addHeaders (origin.headers ++ additions) := by
    rw [hrequest, addHeaders, addHeaders, addHeaders, List.foldl_append]
  rw [hall, addHeaders_ofPath]
  exact tabulates_ofList

/-- Headers with a final sigma, a dotted capital and white space beyond that of a keyboard. -/
def foreign : List (Text × Text) :=
  [("\u00A0ΛΌΓΟΣ".toList, "\u2003a".toList), ("İ\u3000".toList, "b".toList),
    ("λόγος".toList, "c".toList)]

/-- The last of the three has the name of the first, and is the one that is found. -/
theorem addHeaders_tabulates_foreign :
    ((ofPath rootPath).addHeaders foreign).headerCount = 2 ∧
      ((ofPath rootPath).addHeaders foreign).header? "λόγος".toList = some "c".toList ∧
      ((ofPath rootPath).addHeaders foreign).header? "i̇".toList = some "b".toList ∧
      ((ofPath rootPath).addHeaders foreign).header? "ΛΌΓΟΣ".toList = none := by
  have htable : ((ofPath rootPath).addHeaders foreign).Tabulates foreign :=
    addHeaders_tabulates .root foreign
  refine ⟨?_, ?_, ?_, htable.absent _ (by decide +kernel)⟩
  · rw [htable.count]
    decide +kernel
  · have hlast := htable.last "ΛΌΓΟΣ".toList
    have hname : Text.lower (Text.trim "ΛΌΓΟΣ".toList) = "λόγος".toList := by decide +kernel
    rw [hname] at hlast
    rw [hlast]
    decide +kernel
  · have hlast := htable.last "İ".toList
    have hname : Text.lower (Text.trim "İ".toList) = "i̇".toList := by decide +kernel
    rw [hname] at hlast
    rw [hlast]
    decide +kernel

end IndexSearch.Request
