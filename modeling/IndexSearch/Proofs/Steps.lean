/-!
# Steps that may fail

What the outcome of a sequence of steps says about the steps. A sequence succeeds if all of its
steps do, and the first that fails decides its failure.
-/

namespace IndexSearch

variable {ε ε' α β : Type}

theorem exists_of_bind_eq_ok {step : Except ε α} {next : α → Except ε β} {result : β}
    (h : step >>= next = .ok result) : ∃ value, step = .ok value ∧ next value = .ok result := by
  cases step with
  | error fault => cases h
  | ok value => exact ⟨value, rfl, h⟩

theorem of_bind_eq_error {step : Except ε α} {next : α → Except ε β} {fault : ε}
    (h : step >>= next = .error fault) :
    step = .error fault ∨ ∃ value, step = .ok value ∧ next value = .error fault := by
  cases step with
  | error cause =>
    cases h
    exact Or.inl rfl
  | ok value => exact Or.inr ⟨value, rfl, h⟩

theorem of_mapError_eq_ok {step : Except ε α} {report : ε → ε'} {value : α}
    (h : step.mapError report = .ok value) : step = .ok value := by
  cases step with
  | error fault => cases h
  | ok other =>
    cases h
    rfl

theorem exists_of_mapError_eq_error {step : Except ε α} {report : ε → ε'} {reported : ε'}
    (h : step.mapError report = .error reported) :
    ∃ fault, step = .error fault ∧ report fault = reported := by
  cases step with
  | error fault => exact ⟨fault, rfl, Except.error.inj h⟩
  | ok value => cases h

variable {step : α → Except ε β} {items : List α}

theorem length_of_mapM_eq_ok {results : List β} (h : items.mapM step = .ok results) :
    results.length = items.length := by
  induction items generalizing results with
  | nil =>
    cases h
    rfl
  | cons item items ih =>
    rw [List.mapM_cons] at h
    obtain ⟨result, _, hrest⟩ := exists_of_bind_eq_ok h
    obtain ⟨others, hothers, hresults⟩ := exists_of_bind_eq_ok hrest
    cases hresults
    rw [List.length_cons, List.length_cons, ih hothers]

/-- Every result is that of one of the items. -/
theorem exists_of_mem_of_mapM_eq_ok {results : List β} (h : items.mapM step = .ok results)
    {result : β} (mem : result ∈ results) : ∃ item ∈ items, step item = .ok result := by
  induction items generalizing results with
  | nil =>
    cases h
    cases mem
  | cons item items ih =>
    rw [List.mapM_cons] at h
    obtain ⟨first, hfirst, hrest⟩ := exists_of_bind_eq_ok h
    obtain ⟨others, hothers, hresults⟩ := exists_of_bind_eq_ok hrest
    cases hresults
    rcases List.mem_cons.mp mem with rfl | hmem
    · exact ⟨item, List.mem_cons_self, hfirst⟩
    · obtain ⟨other, hother, hresult⟩ := ih hothers hmem
      exact ⟨other, List.mem_cons_of_mem _ hother, hresult⟩

theorem mapM_eq_ok_map {result : α → β}
    (succeeds : ∀ item ∈ items, step item = .ok (result item)) :
    items.mapM step = .ok (items.map result) := by
  induction items with
  | nil => rfl
  | cons item items ih =>
    obtain ⟨hitem, hitems⟩ := List.forall_mem_cons.mp succeeds
    rw [List.mapM_cons, hitem, ih hitems]
    rfl

theorem exists_mapM_eq_error (fails : ∃ item ∈ items, ∃ fault, step item = .error fault) :
    ∃ fault, items.mapM step = .error fault := by
  obtain ⟨failing, hmem, fault, hfault⟩ := fails
  induction items with
  | nil => exact absurd hmem List.not_mem_nil
  | cons item items ih =>
    rw [List.mapM_cons]
    cases hitem : step item with
    | error cause => exact ⟨cause, rfl⟩
    | ok result =>
      -- An item whose step succeeds is not the one that fails, which so comes later.
      have hlater : failing ∈ items := by
        refine (List.mem_cons.mp hmem).resolve_left ?_
        rintro rfl
        rw [hfault] at hitem
        cases hitem
      obtain ⟨cause, hcause⟩ := ih hlater
      exact ⟨cause, by rw [hcause]; rfl⟩

end IndexSearch
