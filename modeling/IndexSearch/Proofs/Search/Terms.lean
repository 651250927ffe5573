import IndexSearch.Proofs.Text.LowerCase

/-!
# Terms of a line

Where white space stands between two parts of a line, each part has its own terms: what a capital
sigma looks at, to see whether it ends its word, is never beyond white space. A term is a word in
lower case, and the terms of a line, written with spaces between them, are the terms of what was
written.
-/

namespace IndexSearch

open Text

/-- A word in lower case. -/
structure IsTerm (term : Text) : Prop where
  nonempty : term ≠ []
  unbroken : ∀ c ∈ term, isBlank c = false
  lowered : lower term = term

variable {line more term word : Text}

/-- Lower-casing comes before the cut, and leaves the pieces alone when it comes again. -/
theorem isTerm_of_mem_searchWords (h : term ∈ searchWords line) : IsTerm term := by
  obtain ⟨hpart, nonempty, unbroken⟩ := of_mem_words h
  refine ⟨nonempty, unbroken, ?_⟩
  apply lowerAfter_of_isSettled
  intro c hc
  exact isSettled_of_mem_lowerAfter (hpart.mem hc)

theorem searchWords_of_unbroken (nonempty : word ≠ []) (unbroken : ∀ c ∈ word, isBlank c = false) :
    searchWords word = [lower word] := by
  apply words_of_clear
  · exact lowerAfter_ne_nil nonempty []
  · intro d hd
    obtain ⟨c, hc, hblank⟩ := exists_of_mem_lowerAfter hd
    exact hblank.trans (unbroken c hc)

theorem IsTerm.searchWords_eq (h : IsTerm term) : searchWords term = [term] := by
  rw [searchWords_of_unbroken h.nonempty h.unbroken, h.lowered]

/-- Terms with a space between them ask for themselves. -/
theorem searchWords_intercalate {terms : List Text} (h : ∀ term ∈ terms, IsTerm term) :
    searchWords ([' '].intercalate terms) = terms := by
  induction terms with
  | nil => rfl
  | cons term terms ih =>
    obtain ⟨hterm, hterms⟩ := List.forall_mem_cons.mp h
    cases terms with
    | nil =>
      rw [List.intercalate_singleton]
      exact hterm.searchWords_eq
    | cons next others =>
      have hspace : isBlank ' ' = true := by decide
      rw [List.intercalate_cons_cons, List.append_assoc, List.singleton_append,
        searchWords_append_blank hspace, hterm.searchWords_eq, ih hterms]
      rfl

/-- White space between two parts of a line, of which there is some, keeps their terms apart. -/
theorem searchWords_append_blanks_append {blanks : Text} (nonempty : blanks ≠ [])
    (blank : ∀ c ∈ blanks, isBlank c = true) :
    searchWords (line ++ blanks ++ more) = searchWords line ++ searchWords more := by
  cases blanks with
  | nil => exact absurd rfl nonempty
  | cons c blanks =>
    obtain ⟨hfirst, hothers⟩ := List.forall_mem_cons.mp blank
    calc searchWords (line ++ c :: blanks ++ more)
        = searchWords (line ++ c :: (blanks ++ more)) := by
          rw [List.append_assoc, List.cons_append]
      _ = searchWords line ++ searchWords (blanks ++ more) := searchWords_append_blank hfirst _ _
      _ = searchWords line ++ searchWords more := by rw [searchWords_blank_append hothers]

/-- Cutting a line into terms turns white space between two parts into concatenation. All terms are
words in lower case, and they are found again when they are written with spaces between them. As a
word has its lower case for its only term and an empty line has none, this says of every line which
its terms are. -/
theorem searchWords_homomorphism :
    (∀ line blanks more, blanks ≠ [] → (∀ c ∈ blanks, isBlank c = true) →
      searchWords (line ++ blanks ++ more) = searchWords line ++ searchWords more) ∧
    (∀ line, ∀ term ∈ searchWords line,
      term ≠ [] ∧ (∀ c ∈ term, isBlank c = false) ∧ lower term = term) ∧
    (∀ line, searchWords ([' '].intercalate (searchWords line)) = searchWords line) ∧
    (∀ word, word ≠ [] → (∀ c ∈ word, isBlank c = false) → searchWords word = [lower word]) ∧
    searchWords [] = [] := by
  refine ⟨?_, ?_, ?_, ?_, rfl⟩
  · intro line blanks more nonempty blank
    exact searchWords_append_blanks_append nonempty blank
  · intro line term h
    have hterm := isTerm_of_mem_searchWords h
    exact ⟨hterm.nonempty, hterm.unbroken, hterm.lowered⟩
  · intro line
    apply searchWords_intercalate
    intro term h
    exact isTerm_of_mem_searchWords h
  · intro word nonempty unbroken
    exact searchWords_of_unbroken nonempty unbroken

/-- The sigma ends its word although letters follow: it looks past the apostrophes but not past the
white space. Without white space it is a medial one. -/
theorem searchWords_homomorphism_sigma :
    searchWords ("ΑΣ'".toList ++ "\u2003\u00A0".toList ++ "'ΑΣ Β".toList) =
        searchWords "ΑΣ'".toList ++ searchWords "'ΑΣ Β".toList ∧
      searchWords "ΑΣ'".toList = ["ας'".toList] ∧
      searchWords "'ΑΣ Β".toList = ["'ας".toList, "β".toList] ∧
      searchWords "ΑΣ''ΑΣ".toList = ["ασ''ας".toList] ∧
      lower "'ας".toList = "'ας".toList ∧
      searchWords "'ας β".toList = ["'ας".toList, "β".toList] := by
  obtain ⟨happart, hterms, hagain, hword, -⟩ := searchWords_homomorphism
  have hblank : "\u2003\u00A0".toList.all isBlank = true := by decide
  have hterm : searchWords "ΑΣ''ΑΣ".toList = [lower "ΑΣ''ΑΣ".toList] := by
    apply hword
    · decide
    · intro c hc
      have hclear : "ΑΣ''ΑΣ".toList.all (!isBlank ·) = true := by decide
      simpa using List.all_eq_true.mp hclear c hc
  have hlower : lower "ΑΣ''ΑΣ".toList = "ασ''ας".toList := by decide +kernel
  have hwords : searchWords "'ΑΣ Β".toList = ["'ας".toList, "β".toList] := by decide +kernel
  refine ⟨happart _ _ _ (by decide) (List.all_eq_true.mp hblank), by decide +kernel, hwords,
    by rw [hterm, hlower], ?_, ?_⟩
  · have hmem : "'ας".toList ∈ searchWords "'ΑΣ Β".toList := by
      rw [hwords]
      exact List.mem_cons_self
    exact (hterms _ _ hmem).2.2
  · have hline := hagain "'ΑΣ Β".toList
    rw [hwords] at hline
    exact hline

end IndexSearch
