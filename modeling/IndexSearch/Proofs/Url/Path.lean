import IndexSearch.Proofs.Files.Resolution
import IndexSearch.Proofs.Url.Percent
import IndexSearch.Url.Resolve

/-!
# Paths with dot segments

A path without dot segments is kept as it is written, its backslashes being slashes. Dot segments
only shorten a path: what it stands for, read with its percent forms, has fewer characters with
them than without.
-/

namespace IndexSearch.Target

open Percent

def slashed (text : Text) : Text :=
  text.map fun c => if c = '\\' then '/' else c

theorem slashed_cons (c : Char) (text : Text) :
    slashed (c :: text) = (if c = '\\' then '/' else c) :: slashed text :=
  rfl

theorem slashed_append (text more : Text) : slashed (text ++ more) = slashed text ++ slashed more :=
  List.map_append

theorem length_slashed (text : Text) : (slashed text).length = text.length :=
  List.length_map _

theorem slashed_eq_self_iff {text : Text} : slashed text = text ↔ '\\' ∉ text := by
  induction text with
  | nil => simp [slashed]
  | cons c text ih =>
    rw [slashed_cons, List.cons.injEq, ih, List.mem_cons, not_or]
    refine and_congr ?_ Iff.rfl
    by_cases hc : c = '\\'
    · simp [hc]
    · simp [hc, Ne.symm hc]

theorem splitOnP_isSlash (text : Text) :
    text.splitOnP SchemeKind.special.isSlash = (slashed text).splitOn '/' := by
  induction text with
  | nil => rfl
  | cons c text ih =>
    rw [slashed_cons, List.splitOn, List.splitOnP_cons_eq_if_modifyHead,
      List.splitOnP_cons_eq_if_modifyHead, ih]
    by_cases hback : c = '\\'
    · subst hback
      rfl
    · by_cases hslash : c = '/'
      · subst hslash
        rfl
      · simp [SchemeKind.isSlash, hback, hslash, List.splitOn]

theorem encode_slashed (text : Text) :
    encode inPathSet (slashed text) = slashed (encode inPathSet text) := by
  induction text with
  | nil => rfl
  | cons c text ih =>
    rw [slashed_cons]
    by_cases hset : inPathSet c = true
    · have hback : c ≠ '\\' := by
        rintro rfl
        revert hset
        decide
      have hform : slashed ((String.utf8EncodeChar c).flatMap encodeByte) =
          (String.utf8EncodeChar c).flatMap encodeByte := by
        rw [slashed_eq_self_iff]
        exact not_mem_encodeBytes (by decide) (by decide) _
      rw [if_neg hback, encode_cons_of_mem hset, encode_cons_of_mem hset, ih, slashed_append,
        hform]
    · have hclear : inPathSet c = false := by simpa using hset
      rw [encode_cons_of_clear hclear, slashed_cons, ← ih]
      split
      · exact encode_cons_of_clear (by decide) _
      · exact encode_cons_of_clear hclear _

theorem not_slash_mem_encode {text : Text} (h : '/' ∉ text) : '/' ∉ encode inPathSet text := by
  intro hmem
  obtain ⟨c, hc, hmem⟩ := List.mem_flatMap.mp hmem
  split at hmem
  · exact not_mem_encodeBytes (by decide) (by decide) _ hmem
  · rw [← List.mem_singleton.mp hmem] at hc
    exact h hc

theorem encode_intercalate (parts : List Text) :
    encode inPathSet (['/'].intercalate parts) =
      ['/'].intercalate (parts.map (encode inPathSet)) := by
  induction parts with
  | nil => rfl
  | cons part parts ih =>
    cases parts with
    | nil => simp
    | cons next others =>
      rw [List.intercalate_cons_cons, List.map_cons, List.map_cons, List.intercalate_cons_cons,
        ← List.map_cons, ← ih, encode, List.flatMap_append, List.flatMap_append]
      rfl

/-- The segments of a path are encoded one by one. -/
theorem splitOn_encode (text : Text) :
    (encode inPathSet text).splitOn '/' = (text.splitOn '/').map (encode inPathSet) := by
  have hclear : ∀ part ∈ (text.splitOn '/').map (encode inPathSet), '/' ∉ part := by
    intro part hpart
    obtain ⟨plain, hplain, rfl⟩ := List.mem_map.mp hpart
    exact not_slash_mem_encode (FileSystem.not_slash_mem_of_mem_namesOf hplain)
  have hnonempty : (text.splitOn '/').map (encode inPathSet) ≠ [] := by
    rw [ne_eq, List.map_eq_nil_iff]
    exact List.splitOnP_ne_nil _ _
  have hjoined : encode inPathSet text =
      ['/'].intercalate ((text.splitOn '/').map (encode inPathSet)) := by
    rw [← encode_intercalate, List.intercalate_splitOn]
  rw [hjoined]
  exact List.splitOn_intercalate '/' hclear hnonempty

theorem isInfix_of_mem_splitOn {text part : Text} (h : part ∈ text.splitOn '/') :
    part <:+: text :=
  isInfix_of_mem_splitOnP h

/-- A segment that slashes join to others is one of those that they separate again. -/
theorem mem_splitOn_intercalate {part : Text} {parts : List Text} (slashless : '/' ∉ part)
    (h : part ∈ parts) : part ∈ (['/'].intercalate parts).splitOn '/' := by
  have hwhole : part ∈ part.splitOn '/' := by
    rw [List.splitOn,
      List.splitOnP_eq_singleton (FileSystem.not_separates_of_slashless slashless)]
    exact List.mem_singleton_self part
  induction parts with
  | nil => cases h
  | cons first parts ih =>
    cases parts with
    | nil => rwa [List.intercalate_singleton, ← List.mem_singleton.mp h]
    | cons next others =>
      rw [List.intercalate_cons_cons, List.append_assoc, List.singleton_append, List.splitOn,
        List.splitOnP_append_cons _ _ (by decide), List.mem_append]
      rcases List.mem_cons.mp h with rfl | hmem
      · exact Or.inl hwhole
      · exact Or.inr (ih hmem)

def isDot (segment : Text) : Bool :=
  isDoubleDot segment || isSingleDot segment

theorem isDot_eq_false_iff {segment : Text} : isDot segment = false ↔
    isDoubleDot segment = false ∧ isSingleDot segment = false :=
  Bool.or_eq_false_iff

theorem normalSegment_special (segments : List Text) (segment : Text) :
    normalSegment .special segments segment = segment :=
  rfl

theorem enter_of_dotless {segment : Text} (dotless : isDot segment = false)
    (segments : List Text) : enter .special segments segment = segment :: segments := by
  rw [isDot_eq_false_iff] at dotless
  rw [enter, if_neg (by simp [dotless.1]), if_neg (by simp [dotless.2]), normalSegment_special]

/-- Without dot segments the segments of a path stay in their places. -/
theorem joinSegments_of_dotless (segments : List Text) {rest : List Text}
    (dotless : ∀ segment ∈ rest, isDot segment = false) :
    joinSegments .special segments rest =
      segments.reverse.flatMap (· ++ ['/']) ++ ['/'].intercalate rest := by
  fun_induction joinSegments .special segments rest with
  | case1 => exact (List.append_nil _).symm
  | case2 segments last double =>
    have hlast := isDot_eq_false_iff.mp (dotless last List.mem_cons_self)
    rw [hlast.1] at double
    cases double
  | case3 segments last _ single =>
    have hlast := isDot_eq_false_iff.mp (dotless last List.mem_cons_self)
    rw [hlast.2] at single
    cases single
  | case4 segments last => rw [normalSegment_special, List.intercalate_singleton]
  | case5 segments segment rest nonempty ih =>
    rw [List.forall_mem_cons] at dotless
    obtain ⟨next, others, rfl⟩ := List.exists_cons_of_ne_nil fun hnil => nonempty hnil
    rw [ih dotless.2, enter_of_dotless dotless.1, List.intercalate_cons_cons]
    simp

/-- The number of characters that segments stand for, with a slash after each. -/
def size : List Text → Nat
  | [] => 0
  | segment :: segments => (decodeText segment).length + 1 + size segments

theorem size_cons (segment : Text) (segments : List Text) :
    size (segment :: segments) = (decodeText segment).length + 1 + size segments :=
  rfl

theorem size_append (segments others : List Text) :
    size (segments ++ others) = size segments + size others := by
  induction segments with
  | nil => exact (Nat.zero_add _).symm
  | cons segment segments ih =>
    rw [List.cons_append, size_cons, size_cons, ih]
    omega

theorem size_reverse (segments : List Text) : size segments.reverse = size segments := by
  induction segments with
  | nil => rfl
  | cons segment segments ih =>
    rw [List.reverse_cons, size_append, ih]
    exact Nat.add_comm _ _

theorem decodeText_append_slash (text more : Text) :
    decodeText (text ++ '/' :: more) = decodeText text ++ '/' :: decodeText more :=
  decodeText_append_cons (by decide) (by decide) (by decide) text more

theorem decodeText_intercalate (segments : List Text) :
    decodeText (['/'].intercalate segments) = ['/'].intercalate (segments.map decodeText) := by
  induction segments with
  | nil => rfl
  | cons segment segments ih =>
    cases segments with
    | nil => simp
    | cons next others =>
      rw [List.intercalate_cons_cons, List.append_assoc, List.singleton_append,
        decodeText_append_slash, ih]
      simp [List.intercalate_cons_cons]

theorem length_decodeText_flatMap (segments : List Text) (text : Text) :
    (decodeText (segments.flatMap (· ++ ['/']) ++ text)).length =
      size segments + (decodeText text).length := by
  induction segments with
  | nil => exact (Nat.zero_add _).symm
  | cons segment segments ih =>
    rw [List.flatMap_cons, List.append_assoc, List.append_assoc, List.singleton_append,
      decodeText_append_slash, List.length_append, List.length_cons, ih, size_cons]
    omega

theorem length_decodeText_intercalate {segments : List Text} (nonempty : segments ≠ []) :
    (decodeText (['/'].intercalate segments)).length + 1 = size segments := by
  induction segments with
  | nil => exact absurd rfl nonempty
  | cons segment segments ih =>
    cases segments with
    | nil => rw [List.intercalate_singleton, size_cons]; rfl
    | cons next others =>
      have hrest := ih (List.cons_ne_nil _ _)
      rw [List.intercalate_cons_cons, List.append_assoc, List.singleton_append,
        decodeText_append_slash, List.length_append, List.length_cons, size_cons]
      omega

theorem size_leave_le (segments : List Text) : size (leave segments) ≤ size segments := by
  cases segments with
  | nil => exact Nat.le_refl _
  | cons segment segments =>
    rw [leave]
    split
    · exact Nat.le_refl _
    · rw [size_cons]
      exact Nat.le_add_left _ _

/-- Read, a dot segment is a single or a double dot. -/
theorem decodeText_dot {segment : Text} (dot : isDot segment = true) :
    decodeText segment = ['.'] ∨ decodeText segment = ['.', '.'] := by
  have hsingle : ∀ form ∈ [".", "%2e", "%2E"], decodeText form.toList = ['.'] := by
    decide +kernel
  have hdouble : ∀ form ∈ ["..", ".%2e", ".%2E", "%2e.", "%2E.", "%2e%2e", "%2e%2E", "%2E%2e",
      "%2E%2E"], decodeText form.toList = ['.', '.'] := by
    decide +kernel
  rw [isDot, Bool.or_eq_true, isDoubleDot, isSingleDot, List.any_eq_true, List.any_eq_true] at dot
  rcases dot with ⟨form, hmem, hform⟩ | ⟨form, hmem, hform⟩
  · rw [← beq_iff_eq.mp hform]
    exact Or.inr (hdouble form hmem)
  · rw [← beq_iff_eq.mp hform]
    exact Or.inl (hsingle form hmem)

theorem length_decodeText_dot {segment : Text} (dot : isDot segment = true) :
    1 ≤ (decodeText segment).length := by
  rcases decodeText_dot dot with hsingle | hdouble
  · rw [hsingle]
    exact Nat.le_refl 1
  · rw [hdouble]
    exact Nat.le_succ 1

/-- Entering a dot segment leaves less than was there before. -/
theorem size_enter_le (segments : List Text) (segment : Text) :
    size (enter .special segments segment) + [segment].countP isDot ≤
      size segments + size [segment] := by
  have hcount := List.countP_le_length (p := isDot) (l := [segment])
  have hleave := size_leave_le segments
  have hsegment : size [segment] = (decodeText segment).length + 1 := size_cons segment []
  rw [List.length_singleton] at hcount
  by_cases hdot : isDot segment = true
  · rw [enter]
    split
    · omega
    · split
      · omega
      · rename_i hdouble hsingle
        simp [isDot, hdouble, hsingle] at hdot
  · rw [enter_of_dotless (by simpa using hdot), List.countP_singleton, if_neg hdot, size_cons]
    omega

/-- Every dot segment makes a path shorter. -/
theorem length_decodeText_joinSegments_le (segments : List Text) {rest : List Text}
    (nonempty : rest ≠ []) :
    (decodeText (joinSegments .special segments rest)).length + 1 + rest.countP isDot ≤
      size segments + size rest := by
  have hclosed : ∀ segments : List Text,
      (decodeText (segments.reverse.flatMap (· ++ ['/']))).length = size segments := by
    intro segments
    have hlength := length_decodeText_flatMap segments.reverse []
    rw [List.append_nil, size_reverse] at hlength
    exact hlength
  have hcount : ∀ last : Text, [last].countP isDot ≤ 1 := by
    intro last
    exact List.countP_le_length
  -- The segments before a place are counted as they stand, those behind it as they were written.
  fun_induction joinSegments .special segments rest with
  | case1 => exact absurd rfl nonempty
  | case2 segments last double =>
    have hdot : 1 ≤ (decodeText last).length := length_decodeText_dot (by simp [isDot, double])
    have hleave := size_leave_le segments
    have hlast := hcount last
    rw [hclosed, size_cons]
    omega
  | case3 segments last _ single =>
    have hdot : 1 ≤ (decodeText last).length := length_decodeText_dot (by simp [isDot, single])
    have hlast := hcount last
    rw [hclosed, size_cons]
    omega
  | case4 segments last double single =>
    rw [length_decodeText_flatMap, size_reverse, normalSegment_special, List.countP_singleton,
      if_neg (by simp [isDot, double, single]), size_cons]
    exact Nat.le_refl _
  | case5 segments segment rest more ih =>
    have hrest := ih fun hnil => more hnil
    have henter := size_enter_le segments segment
    rw [List.countP_cons, size_cons]
    rw [size_cons, List.countP_singleton] at henter
    have hnil : size [] = 0 := rfl
    omega

end IndexSearch.Target
