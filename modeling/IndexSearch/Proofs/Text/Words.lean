import IndexSearch.Proofs.Text.Pieces
import IndexSearch.Search.Words
import IndexSearch.Text.Blank
import IndexSearch.Text.LowerCase

/-!
# Words and lower case

White space has no case and hides it: no character is lower-cased in view of what stands behind
white space. So a text may be cut at white space before or after it is lower-cased, and the words
of a line are those of its parts. The facts about single code points are read off the tables.
-/

namespace IndexSearch.Text

def blankCodes : List Nat :=
  [9, 10, 11, 12, 13, 0x20, 0x85, 0xA0, 0x1680, 0x2000, 0x2001, 0x2002, 0x2003, 0x2004, 0x2005,
    0x2006, 0x2007, 0x2008, 0x2009, 0x200A, 0x2028, 0x2029, 0x202F, 0x205F, 0x3000]

theorem mem_blankCodes {c : Char} (h : isBlank c = true) : c.toNat ∈ blankCodes := by
  simp only [isBlank, Bool.or_eq_true, decide_eq_true_eq, beq_iff_eq] at h
  simp only [blankCodes, List.mem_cons, List.not_mem_nil, or_false]
  omega

theorem lowerCode?_blank : ∀ n ∈ blankCodes, lowerCode? n = none := by
  decide +kernel

theorem not_ignorable_blank :
    ∀ n ∈ blankCodes, CodePoint.within CaseTable.ignorableRanges n = false := by
  decide +kernel

theorem not_cased_blank : ∀ n ∈ blankCodes, CodePoint.within CaseTable.casedRanges n = false := by
  decide +kernel

variable {c : Char}

theorem lowerChar_blank (h : isBlank c = true) (before after : Text) :
    lowerChar before c after = [c] := by
  have hsigma : c ≠ 'Σ' := by
    rintro rfl
    revert h
    decide
  have hdotted : c ≠ 'İ' := by
    rintro rfl
    revert h
    decide
  rw [lowerChar, if_neg hsigma, if_neg hdotted, lowerCode?_blank _ (mem_blankCodes h)]

/-- Looking for a cased letter ends at white space. -/
theorem meetsCased_append_blank (h : isBlank c = true) (text more : Text) :
    meetsCased (text ++ c :: more) = meetsCased text := by
  have hstop : isIgnorable c = false := not_ignorable_blank _ (mem_blankCodes h)
  have huncased : isCased c = false := not_cased_blank _ (mem_blankCodes h)
  rw [meetsCased, meetsCased, List.dropWhile_append]
  cases text.dropWhile isIgnorable with
  | nil => simp [hstop, huncased]
  | cons first rest => rfl

theorem lowerChar_before_blank (h : isBlank c = true) (before more : Text) (x : Char)
    (after : Text) : lowerChar (before ++ c :: more) x after = lowerChar before x after := by
  rw [lowerChar, lowerChar, meetsCased_append_blank h]

theorem lowerChar_after_blank (h : isBlank c = true) (before : Text) (x : Char)
    (after more : Text) : lowerChar before x (after ++ c :: more) = lowerChar before x after := by
  rw [lowerChar, lowerChar, meetsCased_append_blank h]

/-- What stands before white space does not matter for what stands behind it. -/
theorem lowerAfter_before_blank (h : isBlank c = true) (before more text : Text) :
    lowerAfter (before ++ c :: more) text = lowerAfter before text := by
  induction text generalizing before with
  | nil => rfl
  | cons x text ih =>
    rw [lowerAfter, lowerAfter, lowerChar_before_blank h]
    exact congrArg (lowerChar before x text ++ ·) (ih (x :: before))

/-- What stands behind white space does not matter for what stands before it. -/
theorem lowerAfter_append_blank (h : isBlank c = true) (before text more : Text) :
    lowerAfter before (text ++ c :: more) =
      lowerAfter before text ++ lowerAfter (text.reverse ++ before) (c :: more) := by
  induction text generalizing before with
  | nil => rfl
  | cons x text ih =>
    rw [List.cons_append, lowerAfter, lowerAfter, lowerChar_after_blank h, ih (x :: before),
      List.append_assoc, List.reverse_cons, List.append_assoc]
    rfl

/-- A text is lower-cased on each side of white space by itself. -/
theorem lower_append_blank (h : isBlank c = true) (text more : Text) :
    lower (text ++ c :: more) = lower text ++ c :: lower more := by
  have hmore : lowerAfter (c :: text.reverse) more = lower more :=
    lowerAfter_before_blank h [] text.reverse more
  rw [lower, lowerAfter_append_blank h, List.append_nil, lowerAfter, lowerChar_blank h, hmore]
  rfl

theorem words_append_blank (h : isBlank c = true) (text more : Text) :
    words (text ++ c :: more) = words text ++ words more := by
  rw [words, List.splitOnP_append_cons text more h, List.filter_append]
  rfl

/-- A word is a part of the text, is not empty and holds no white space. -/
theorem of_mem_words {text word : Text} (h : word ∈ words text) :
    word <:+: text ∧ word ≠ [] ∧ ∀ c ∈ word, isBlank c = false := by
  obtain ⟨hpiece, hnonempty⟩ := List.mem_filter.mp h
  refine ⟨isInfix_of_mem_splitOnP hpiece, ?_, clear_of_mem_splitOnP hpiece⟩
  rintro rfl
  cases hnonempty

theorem words_of_clear {text : Text} (nonempty : text ≠ [])
    (clear : ∀ c ∈ text, isBlank c = false) : words text = [text] := by
  rw [words, List.splitOnP_eq_singleton clear]
  simp [nonempty]

/-- Trimming takes white space from both ends and leaves what is between. -/
theorem exists_trim_eq (text : Text) :
    ∃ before after, text = before ++ trim text ++ after ∧
      (∀ c ∈ before, isBlank c = true) ∧ ∀ c ∈ after, isBlank c = true := by
  have hleft := List.takeWhile_append_dropWhile (p := isBlank) (l := text)
  have hright := List.takeWhile_append_dropWhile (p := isBlank)
    (l := (text.dropWhile isBlank).reverse)
  refine ⟨text.takeWhile isBlank, ((text.dropWhile isBlank).reverse.takeWhile isBlank).reverse,
    ?_, ?_, ?_⟩
  · rw [trim, trimRight, List.append_assoc, ← List.reverse_append, hright, List.reverse_reverse,
      hleft]
  · exact fun c hc => List.all_eq_true.mp List.all_takeWhile c hc
  · intro c hc
    exact List.all_eq_true.mp List.all_takeWhile c (List.mem_reverse.mp hc)

end IndexSearch.Text

namespace IndexSearch

open Text

/-- The terms of a line are those on each side of white space. -/
theorem searchWords_append_blank {c : Char} (h : isBlank c = true) (line more : Text) :
    searchWords (line ++ c :: more) = searchWords line ++ searchWords more := by
  rw [searchWords, lower_append_blank h, words_append_blank h]
  rfl

theorem searchWords_blank_append {blanks : Text} (h : ∀ c ∈ blanks, isBlank c = true)
    (line : Text) : searchWords (blanks ++ line) = searchWords line := by
  induction blanks with
  | nil => rfl
  | cons c blanks ih =>
    rw [List.forall_mem_cons] at h
    exact (searchWords_append_blank h.1 [] (blanks ++ line)).trans (ih h.2)

theorem searchWords_blank {blanks : Text} (h : ∀ c ∈ blanks, isBlank c = true) :
    searchWords blanks = [] := by
  have hnone : searchWords [] = [] := rfl
  rw [← List.append_nil blanks, searchWords_blank_append h, hnone]

theorem searchWords_append_blanks {blanks : Text} (h : ∀ c ∈ blanks, isBlank c = true)
    (line : Text) : searchWords (line ++ blanks) = searchWords line := by
  cases blanks with
  | nil => rw [List.append_nil]
  | cons c blanks =>
    rw [List.forall_mem_cons] at h
    rw [searchWords_append_blank h.1, searchWords_blank h.2, List.append_nil]

theorem searchWords_trim (line : Text) : searchWords (trim line) = searchWords line := by
  obtain ⟨before, after, hline, hbefore, hafter⟩ := exists_trim_eq line
  calc searchWords (trim line)
      = searchWords (trim line ++ after) := (searchWords_append_blanks hafter _).symm
    _ = searchWords (before ++ (trim line ++ after)) := (searchWords_blank_append hbefore _).symm
    _ = searchWords line := by rw [← List.append_assoc, ← hline]

end IndexSearch
