import IndexSearch.Search.MatchList

/-!
# Sweeping a match list

A cursor splits its list into the values that it has passed and those that lie ahead. Seen so, a
sweep moves the images of the values ahead to those passed, and drops the values without one. Its
flag is raised only if nothing is left.
-/

namespace IndexSearch.MatchList

variable {α : Type}

namespace Cursor

def passed (cursor : Cursor α) : List α :=
  cursor.items.take cursor.index

def ahead (cursor : Cursor α) : List α :=
  cursor.items.drop cursor.index

theorem passed_append_ahead (cursor : Cursor α) : cursor.passed ++ cursor.ahead = cursor.items :=
  List.take_append_drop cursor.index cursor.items

theorem ahead_of_current?_none {cursor : Cursor α} (h : cursor.current? = none) :
    cursor.ahead = [] :=
  List.drop_of_length_le (List.getElem?_eq_none_iff.mp h)

theorem ahead_of_current? {cursor : Cursor α} {value : α} (h : cursor.current? = some value) :
    cursor.ahead = value :: cursor.items.drop (cursor.index + 1) := by
  obtain ⟨hlt, hget⟩ := List.getElem?_eq_some_iff.mp h
  rw [ahead, List.drop_eq_getElem_cons hlt, hget]

theorem passed_replace (cursor : Cursor α) (other : α) :
    (cursor.replace other).passed = cursor.passed :=
  List.take_set_of_le (Nat.le_refl _)

theorem current?_replace {cursor : Cursor α} {value : α} (h : cursor.current? = some value)
    (other : α) : (cursor.replace other).current? = some other := by
  have hlt : cursor.index < (cursor.items.set cursor.index other).length := by
    rw [List.length_set]
    exact index_lt_of_current? h
  rw [current?, replace, List.getElem?_eq_getElem hlt, List.getElem_set_self]

theorem ahead_replace {cursor : Cursor α} {value : α} (h : cursor.current? = some value)
    (other : α) : (cursor.replace other).ahead = other :: cursor.items.drop (cursor.index + 1) := by
  rw [ahead_of_current? (current?_replace h other), replace,
    List.drop_set_of_lt (Nat.lt_succ_self _)]

theorem passed_next {cursor : Cursor α} {value : α} (h : cursor.current? = some value) :
    cursor.next.passed = cursor.passed ++ [value] := by
  obtain ⟨hlt, hget⟩ := List.getElem?_eq_some_iff.mp h
  rw [next, if_pos hlt, passed, passed, List.take_succ_eq_append_getElem hlt, hget]

theorem ahead_next {cursor : Cursor α} {value : α} (h : cursor.current? = some value) :
    cursor.next.ahead = cursor.items.drop (cursor.index + 1) := by
  rw [next, if_pos (index_lt_of_current? h), ahead]

theorem passed_replace_next {cursor : Cursor α} {value : α} (h : cursor.current? = some value)
    (other : α) : (cursor.replace other).next.passed = cursor.passed ++ [other] := by
  rw [passed_next (current?_replace h other), passed_replace]

theorem ahead_replace_next {cursor : Cursor α} {value : α} (h : cursor.current? = some value)
    (other : α) :
    (cursor.replace other).next.ahead = cursor.items.drop (cursor.index + 1) := by
  rw [ahead_next (current?_replace h other), replace, List.drop_set_of_lt (Nat.lt_succ_self _)]

theorem length_passed {cursor : Cursor α} {value : α} (h : cursor.current? = some value) :
    cursor.passed.length = cursor.index := by
  have hlt := index_lt_of_current? h
  simp only [passed, List.length_take]
  omega

theorem items_remove {cursor : Cursor α} {value : α} (h : cursor.current? = some value) :
    cursor.remove.2.items = cursor.passed ++ cursor.items.drop (cursor.index + 1) := by
  simp [passed, remove, h, List.eraseIdx_eq_take_drop_succ]

theorem passed_remove {cursor : Cursor α} {value : α} (h : cursor.current? = some value) :
    cursor.remove.2.passed = cursor.passed := by
  have hindex : cursor.remove.2.index = cursor.passed.length := by simp [remove, h, length_passed h]
  rw [passed, items_remove h, hindex, List.take_left]

theorem ahead_remove {cursor : Cursor α} {value : α} (h : cursor.current? = some value) :
    cursor.remove.2.ahead = cursor.items.drop (cursor.index + 1) := by
  have hindex : cursor.remove.2.index = cursor.passed.length := by simp [remove, h, length_passed h]
  rw [ahead, items_remove h, hindex, List.drop_left]

/-- A sweep maps the values ahead of the cursor and drops those without an image. -/
theorem sweep_items (image : α → Option α) (cursor : Cursor α) (emptied : Bool) :
    (cursor.sweep image emptied).1.items = cursor.passed ++ cursor.ahead.filterMap image := by
  fun_induction sweep image cursor emptied with
  | case1 cursor emptied h =>
    have hitems : cursor.items = cursor.passed ++ cursor.ahead := (passed_append_ahead cursor).symm
    rw [ahead_of_current?_none h] at hitems ⊢
    exact hitems
  | case2 cursor emptied value h value' himage _ ih =>
    rw [ih, passed_replace_next h, ahead_replace_next h, ahead_of_current? h]
    simp [himage]
  | case3 cursor emptied value h himage _ ih =>
    rw [ih, passed_remove h, ahead_remove h, ahead_of_current? h]
    simp [himage]

/-- The flag is raised only if nothing is left, if that held when the sweep began. -/
theorem sweep_emptied {image : α → Option α} {cursor : Cursor α} {emptied : Bool}
    (before : emptied = true → cursor.items = [])
    (h : (cursor.sweep image emptied).2 = true) : (cursor.sweep image emptied).1.items = [] := by
  fun_induction sweep image cursor emptied with
  | case1 cursor emptied => exact before h
  | case2 cursor emptied value hcurrent value' himage _ ih =>
    refine ih (fun raised => ?_) h
    have hlt := index_lt_of_current? hcurrent
    simp [before raised] at hlt
  | case3 cursor emptied value hcurrent himage _ ih =>
    refine ih (fun raised => ?_) h
    simpa [remove, hcurrent] using raised

end Cursor

theorem sweep_items (image : α → Option α) (list : MatchList α) :
    (list.sweep image).1.items = list.items.filterMap image :=
  Cursor.sweep_items image list.cursor false

theorem sweep_emptied (image : α → Option α) (list : MatchList α)
    (h : (list.sweep image).2 = true) : (list.sweep image).1.items = [] :=
  Cursor.sweep_emptied (fun raised => Bool.noConfusion raised) h

end IndexSearch.MatchList
