import IndexSearch.Proofs.Url.Percent
import IndexSearch.Url.Resolve
import Mathlib.Data.List.DropRight
import Mathlib.Data.List.TakeDrop
import Mathlib.Data.List.TakeWhile

/-!
# References to a path

A reference that begins with a slash, and neither with two slashes nor with a slash and a backslash,
resolves to its own path and query. Only white space and control characters at its end, and tabs and
line ends anywhere, are lost.
-/

namespace IndexSearch.Target

/-- Whether a character is lost at the end of a reference. -/
def isEdge (c : Char) : Bool :=
  decide (c.toNat ≤ 0x20)

/-- Whether a character is kept inside a reference. -/
def isKept (c : Char) : Bool :=
  !(c == '\t' || c == '\n' || c == '\r')

/-- What is left of the end of a reference. -/
def tidy (text : Text) : Text :=
  (text.rdropWhile isEdge).filter isKept

theorem isKept_of_not_isEdge {c : Char} (h : isEdge c = false) : isKept c = true := by
  rw [isKept, Bool.not_eq_true']
  simp only [Bool.or_eq_false_iff, beq_eq_false_iff_ne]
  refine ⟨⟨?_, ?_⟩, ?_⟩
  · rintro rfl
    cases h
  · rintro rfl
    cases h
  · rintro rfl
    cases h

/-- Nothing is lost before a character that is lost nowhere, but tabs and line ends. -/
theorem tidy_append_cons {c : Char} (h : isEdge c = false) (front text : Text) :
    tidy (front ++ c :: text) = front.filter isKept ++ c :: tidy text := by
  have hback : (front ++ c :: text).rdropWhile isEdge = front ++ c :: text.rdropWhile isEdge := by
    rw [List.rdropWhile, List.rdropWhile, List.reverse_append, List.reverse_cons,
      List.append_assoc, List.singleton_append, List.dropWhile_append]
    split
    · rename_i hnil
      have hedge : ¬ isEdge c = true := by simp [h]
      rw [List.isEmpty_iff.mp hnil, List.dropWhile_cons_of_neg hedge]
      simp
    · simp
  rw [tidy, hback, List.filter_append, List.filter_cons_of_pos (isKept_of_not_isEdge h)]
  rfl

theorem tidy_sublist (text : Text) : (tidy text).Sublist text :=
  List.filter_sublist.trans (List.rdropWhile_prefix isEdge text).sublist

/-- A text loses nothing exactly if it neither ends with a character that is lost there nor has one
that is lost everywhere. -/
theorem tidy_eq_self_iff {text : Text} : tidy text = text ↔
    (∀ c ∈ text.getLast?, isEdge c = false) ∧ ∀ c ∈ text, isKept c = true := by
  have hends : text.rdropWhile isEdge = text ↔ ∀ c ∈ text.getLast?, isEdge c = false := by
    rw [List.rdropWhile_eq_self_iff]
    constructor
    · intro hlast c hc
      obtain ⟨hne, rfl⟩ := List.mem_getLast?_eq_getLast hc
      simpa using hlast hne
    · intro hlast hne
      simpa using hlast _ (List.getLast?_eq_some_getLast hne)
  constructor
  · intro htidy
    have hfilter := List.length_filter_le isKept (text.rdropWhile isEdge)
    have hprefix : text.rdropWhile isEdge <+: text := List.rdropWhile_prefix isEdge text
    have hlength := congrArg List.length htidy
    rw [tidy] at hlength
    have hsame : text.rdropWhile isEdge = text := hprefix.eq_of_length_le (by omega)
    rw [tidy, hsame, List.filter_eq_self] at htidy
    exact ⟨hends.mp hsame, htidy⟩
  · rintro ⟨hlast, hkept⟩
    rw [tidy, hends.mpr hlast, List.filter_eq_self]
    exact hkept

theorem tidy_of_edgeless {text : Text} (edgeless : ∀ c ∈ text, isEdge c = false) :
    tidy text = text :=
  tidy_eq_self_iff.mpr ⟨fun c hc => edgeless c (List.mem_of_getLast? hc),
    fun c hc => isKept_of_not_isEdge (edgeless c hc)⟩

/-- A reference that begins with a single slash resolves to what is left of the path behind it. -/
theorem resolve?_rooted {text : Text}
    (single : ∀ c ∈ (tidy text).head?, SchemeKind.special.isSlash c = false) :
    resolve? ('/' :: text) = some (ofPath .special (tidy text)) := by
  have hclean : clean ('/' :: text) = '/' :: tidy text := by
    have htidy : tidy ('/' :: text) = '/' :: tidy text := tidy_append_cons (by decide) [] text
    rw [← htidy, clean, List.dropWhile_cons_of_neg (by decide)]
    rfl
  have hscheme : cutScheme? ('/' :: tidy text) = none := by
    have hletter : isLetter '/' = false := by decide
    simp [cutScheme?, hletter]
  have hends : endsPath '/' = false := by decide
  have hslash : SchemeKind.special.isSlash '/' = true := by decide
  rw [resolve?, hclean]
  simp only [hscheme]
  cases htidy : tidy text with
  | nil => rfl
  | cons c rest =>
    have hc : SchemeKind.special.isSlash c = false := single c (by rw [htidy]; rfl)
    simp [ofRelative?, hends, hslash, hc]

/-- What is left of the path behind a slash, before a query and a fragment. -/
def pathPart (text : Text) : Text :=
  (tidy text).takeWhile (!endsPath ·)

theorem pathPart_sublist (text : Text) : (pathPart text).Sublist text :=
  (List.takeWhile_prefix (!endsPath ·)).sublist.trans (tidy_sublist text)

theorem pathPart_eq_self_iff {text : Text} :
    pathPart text = text ↔ tidy text = text ∧ ∀ c ∈ text, endsPath c = false := by
  constructor
  · intro hpart
    have hprefix : pathPart text <+: tidy text := List.takeWhile_prefix (!endsPath ·)
    have htidy : tidy text = text := by
      refine (tidy_sublist text).eq_of_length_le ?_
      rw [hpart] at hprefix
      exact hprefix.length_le
    rw [pathPart, htidy, List.takeWhile_eq_self_iff] at hpart
    exact ⟨htidy, fun c hc => by simpa using hpart c hc⟩
  · rintro ⟨htidy, hclear⟩
    rw [pathPart, htidy, List.takeWhile_eq_self_iff]
    exact fun c hc => by simpa using hclear c hc

/-- Letters and digits stand for themselves in a path. -/
theorem plain_of_isAlphanum {c : Char} (h : c.isAlphanum = true) :
    isEdge c = false ∧ endsPath c = false ∧ SchemeKind.special.isSlash c = false := by
  have hne : ∀ mark : Char, mark.isAlphanum = false → c ≠ mark := by
    rintro mark hmark rfl
    rw [h] at hmark
    cases hmark
  refine ⟨?_, ?_, ?_⟩
  · rw [isAlphanum_iff] at h
    rw [isEdge, decide_eq_false_iff_not]
    omega
  · simp [endsPath, hne '?' (by decide), hne '#' (by decide)]
  · simp [SchemeKind.isSlash, hne '/' (by decide), hne '\\' (by decide)]

/-- The path of a reference into a directory at the root. -/
theorem resolve?_into {first : Char} {name : Text}
    (alphanumeric : ∀ c ∈ first :: name, c.isAlphanum = true) (text : Text) :
    ∃ query, resolve? ('/' :: (first :: name ++ '/' :: text)) =
      some ⟨pathOf .special (first :: name ++ '/' :: pathPart text), query⟩ := by
  have hplain := fun c hc => plain_of_isAlphanum (alphanumeric c hc)
  have htidy : tidy (first :: name ++ '/' :: text) = first :: name ++ '/' :: tidy text := by
    rw [tidy_append_cons (by decide), List.filter_eq_self.mpr]
    exact fun c hc => isKept_of_not_isEdge (hplain c hc).1
  have hpath : ∀ c ∈ first :: name, (!endsPath c) = true :=
    fun c hc => by simp [(hplain c hc).2.1]
  refine ⟨queryOf ((tidy text).dropWhile (!endsPath ·)), ?_⟩
  rw [resolve?_rooted, htidy, ofPath, List.span_eq_takeWhile_dropWhile,
    List.takeWhile_append_of_pos hpath, List.dropWhile_append_of_pos hpath]
  · rfl
  · rw [htidy]
    rintro _ ⟨⟩
    exact (hplain first List.mem_cons_self).2.2

end IndexSearch.Target
