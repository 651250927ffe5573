import IndexSearch.Http.Connection
import Mathlib.Data.List.Infix

/-!
# Request heads in a byte string

A head ends with the first blank line in it. The heads of a byte string are read off byte by byte,
without offsets; looking for the next blank line from an offset finds the same heads, as long as
none begins before the offset.
-/

namespace IndexSearch

/-- Bytes that end in a blank line and have none before. -/
def IsHead (head : Bytes) : Prop :=
  blankLine <:+ head ∧ ¬ blankLine <:+: head.dropLast

/-- The heads that some bytes complete, after the bytes of a head that has not ended. -/
def headsFrom (begun : Bytes) : Bytes → List Bytes
  | [] => []
  | b :: rest =>
    if blankLine.isSuffixOf (begun ++ [b]) then (begun ++ [b]) :: headsFrom [] rest
    else headsFrom (begun ++ [b]) rest

/-- The heads in a byte string, in order. Bytes after the last one are no head. -/
def headsOf (bytes : Bytes) : List Bytes :=
  headsFrom [] bytes

theorem headsFrom_unfinished {begun bytes : Bytes} (h : ¬ blankLine <:+: begun ++ bytes) :
    headsFrom begun bytes = [] := by
  induction bytes generalizing begun with
  | nil => rfl
  | cons b rest ih =>
    have hsplit : begun ++ b :: rest = (begun ++ [b]) ++ rest := by simp
    rw [hsplit] at h
    have hnot : ¬ blankLine <:+ begun ++ [b] :=
      fun hsuffix => h (List.infix_append_of_infix_left hsuffix.isInfix)
    rw [headsFrom, if_neg (by simpa using hnot), ih h]

theorem headsFrom_head {begun bytes : Bytes} (h : IsHead (begun ++ bytes)) (nonempty : bytes ≠ [])
    (more : Bytes) : headsFrom begun (bytes ++ more) = (begun ++ bytes) :: headsOf more := by
  induction bytes generalizing begun with
  | nil => exact False.elim (nonempty rfl)
  | cons b rest ih =>
    have hsplit : begun ++ b :: rest = (begun ++ [b]) ++ rest := by simp
    rw [List.cons_append, headsFrom]
    by_cases hrest : rest = []
    · subst hrest
      rw [if_pos (by simpa using h.1), List.nil_append, headsOf]
    · have hnot : ¬ blankLine <:+ begun ++ [b] := by
        intro hsuffix
        refine h.2 ?_
        rw [hsplit, List.dropLast_append_of_ne_nil hrest]
        exact List.infix_append_of_infix_left hsuffix.isInfix
      rw [hsplit] at h ⊢
      rw [if_neg (by simpa using hnot), ih h hrest]

theorem IsHead.ne_nil {head : Bytes} (h : IsHead head) : head ≠ [] := by
  rintro rfl
  have hlength := h.1.length_le
  simp [blankLine] at hlength

theorem headsOf_unfinished {bytes : Bytes} (h : ¬ blankLine <:+: bytes) : headsOf bytes = [] :=
  headsFrom_unfinished h

theorem headsOf_append {head : Bytes} (h : IsHead head) (more : Bytes) :
    headsOf (head ++ more) = head :: headsOf more :=
  headsFrom_head (show IsHead ([] ++ head) from h) h.ne_nil more

/-- No blank line begins before an offset. -/
def ClearBefore (offset : Nat) (bytes : Bytes) : Prop :=
  ∀ i, i < offset → ¬ blankLine <+: bytes.drop i

theorem clearBefore_zero (bytes : Bytes) : ClearBefore 0 bytes :=
  fun i hi => absurd hi (Nat.not_lt_zero i)

theorem infix_iff_exists_drop (pattern bytes : Bytes) :
    pattern <:+: bytes ↔ ∃ i, pattern <+: bytes.drop i := by
  rw [List.infix_iff_prefix_suffix]
  constructor
  · rintro ⟨tail, hbegins, hsuffix⟩
    exact ⟨bytes.length - tail.length, (List.suffix_iff_eq_drop.mp hsuffix) ▸ hbegins⟩
  · rintro ⟨i, hbegins⟩
    exact ⟨bytes.drop i, hbegins, List.drop_suffix i bytes⟩

theorem firstBlankLine?_eq_none {bytes : Bytes} :
    firstBlankLine? bytes = none ↔ ¬ blankLine <:+: bytes := by
  induction bytes with
  | nil => simp [firstBlankLine?, blankLine]
  | cons b rest ih =>
    rw [firstBlankLine?, List.infix_cons_iff]
    by_cases h : blankLine <+: b :: rest
    · simp [h]
    · simp [h, ih]

theorem firstBlankLine?_eq_some {bytes : Bytes} {offset : Nat}
    (h : firstBlankLine? bytes = some offset) :
    blankLine <+: bytes.drop offset ∧ ClearBefore offset bytes := by
  induction bytes generalizing offset with
  | nil => simp [firstBlankLine?] at h
  | cons b rest ih =>
    rw [firstBlankLine?] at h
    split at h
    · rename_i hbegins
      cases h
      exact ⟨by simpa using hbegins, clearBefore_zero _⟩
    · rename_i hbegins
      obtain ⟨before, hbefore, rfl⟩ := Option.map_eq_some_iff.mp h
      obtain ⟨hfound, hclear⟩ := ih hbefore
      refine ⟨hfound, fun i hi => ?_⟩
      cases i with
      | zero => simpa using hbegins
      | succ i => exact hclear i (by omega)

/-- The bytes up to the end of a first blank line are a head. -/
theorem isHead_take {bytes : Bytes} {offset : Nat} (hbegins : blankLine <+: bytes.drop offset)
    (clear : ClearBefore offset bytes) : IsHead (bytes.take (offset + blankLine.length)) := by
  constructor
  · rw [List.take_add, ← List.prefix_iff_eq_take.mp hbegins]
    exact List.suffix_append _ _
  · intro hinfix
    obtain ⟨i, hi⟩ := (infix_iff_exists_drop _ _).mp hinfix
    have hlength := hi.length_le
    have hbound : i < offset := by
      simp only [blankLine, List.length_drop, List.length_dropLast, List.length_take,
        List.length_cons, List.length_nil] at hlength
      omega
    have hwhole : (bytes.take (offset + blankLine.length)).dropLast <+: bytes :=
      (List.dropLast_prefix _).trans (List.take_prefix _ _)
    exact clear i hbound (hi.trans (hwhole.drop i))

theorem cutHead?_eq_none {bytes : Bytes} {scanned : Nat} (clear : ClearBefore scanned bytes)
    (h : cutHead? bytes scanned = none) : ¬ blankLine <:+: bytes := by
  rw [cutHead?, Option.map_eq_none_iff, firstBlankLine?_eq_none] at h
  intro hinfix
  obtain ⟨i, hi⟩ := (infix_iff_exists_drop _ _).mp hinfix
  by_cases hbefore : i < scanned
  · exact clear i hbefore hi
  · refine h ((infix_iff_exists_drop _ _).mpr ⟨i - scanned, ?_⟩)
    rwa [List.drop_drop, show scanned + (i - scanned) = i by omega]

/-- Cutting from an offset cuts at the first blank line of all. -/
theorem isHead_of_cutHead? {bytes head rest : Bytes} {scanned : Nat}
    (clear : ClearBefore scanned bytes) (h : cutHead? bytes scanned = some (head, rest)) :
    IsHead head := by
  obtain ⟨offset, hfirst, hcut⟩ := Option.map_eq_some_iff.mp h
  obtain ⟨hbegins, hclear⟩ := firstBlankLine?_eq_some hfirst
  rw [List.splitAt_eq, Prod.mk.injEq] at hcut
  rw [← hcut.1]
  refine isHead_take (by rwa [List.drop_drop] at hbegins) fun i hi => ?_
  by_cases hbefore : i < scanned
  · exact clear i hbefore
  · have hrest := hclear (i - scanned) (by omega)
    rwa [List.drop_drop, show scanned + (i - scanned) = i by omega] at hrest

theorem cutHead?_of_unfinished {bytes : Bytes} {scanned : Nat} (clear : ClearBefore scanned bytes)
    (unfinished : ¬ blankLine <:+: bytes) : cutHead? bytes scanned = none := by
  cases hcut : cutHead? bytes scanned with
  | none => rfl
  | some cut =>
    have hhead := isHead_of_cutHead? clear hcut
    rw [(cutHead?_eq_some hcut).1] at unfinished
    exact absurd (List.infix_append_of_infix_left hhead.1.isInfix) unfinished

/-- Three bytes back from the end of bytes without a blank line is far enough: whatever follows,
no blank line begins before. -/
theorem clearBefore_append {bytes : Bytes} (h : ¬ blankLine <:+: bytes) (more : Bytes) :
    ClearBefore (bytes.length - (blankLine.length - 1)) (bytes ++ more) := by
  intro i hi hbegins
  refine h ((infix_iff_exists_drop _ _).mpr ⟨i, ?_⟩)
  simp only [blankLine, List.length_cons, List.length_nil] at hi
  rw [List.drop_append_of_le_length (by omega)] at hbegins
  refine List.prefix_of_prefix_length_le hbegins (List.prefix_append _ _) ?_
  simp only [blankLine, List.length_cons, List.length_nil, List.length_drop]
  omega

end IndexSearch
