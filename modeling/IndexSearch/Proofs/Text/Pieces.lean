import Mathlib.Data.List.Infix

/-!
# Pieces between separators

A list is cut at the elements that separate. What is proved of lists without a separator, and
carried over to a separator between such a list and any other one, is proved of all lists; the
pieces of a list are parts of it and hold no separator.
-/

namespace IndexSearch

variable {α : Type}

/-- A list is without separators, or the first separator follows a list without one. -/
theorem separated_induction (separates : α → Bool) {motive : List α → Prop}
    (clear : ∀ list, (∀ a ∈ list, separates a = false) → motive list)
    (cut : ∀ before separator after, (∀ a ∈ before, separates a = false) →
      separates separator = true → motive after → motive (before ++ separator :: after))
    (list : List α) : motive list := by
  induction hlength : list.length using Nat.strongRecOn generalizing list with
  | ind length ih =>
    cases hfirst : list.find? separates with
    | none =>
      apply clear
      simpa using hfirst
    | some separator =>
      obtain ⟨hseparates, before, after, rfl, hbefore⟩ :=
        List.find?_eq_some_iff_append.mp hfirst
      have hshort : after.length < length := by
        rw [List.length_append, List.length_cons] at hlength
        omega
      apply cut before separator after _ hseparates (ih after.length hshort after rfl)
      simpa using hbefore

variable {separates : α → Bool} {list piece : List α}

/-- No separator is left in the pieces. -/
theorem clear_of_mem_splitOnP (h : piece ∈ list.splitOnP separates) :
    ∀ a ∈ piece, separates a = false := by
  induction list using separated_induction separates with
  | clear list clear =>
    rw [List.splitOnP_eq_singleton clear, List.mem_singleton] at h
    rwa [h]
  | cut before separator after clear hseparates ih =>
    rw [List.splitOnP_append_cons_of_forall_mem clear separator hseparates] at h
    rcases List.mem_cons.mp h with rfl | hafter
    · exact clear
    · exact ih hafter

/-- The pieces are parts of the list. -/
theorem isInfix_of_mem_splitOnP (h : piece ∈ list.splitOnP separates) : piece <:+: list := by
  induction list using separated_induction separates with
  | clear list clear =>
    rw [List.splitOnP_eq_singleton clear, List.mem_singleton] at h
    rw [h]
  | cut before separator after clear hseparates ih =>
    rw [List.splitOnP_append_cons_of_forall_mem clear separator hseparates] at h
    rcases List.mem_cons.mp h with rfl | hafter
    · exact (List.prefix_append _ _).isInfix
    · have hsuffix : after <:+ before ++ separator :: after :=
        (List.suffix_cons separator after).trans (List.suffix_append before _)
      exact (ih hafter).trans hsuffix.isInfix

end IndexSearch
