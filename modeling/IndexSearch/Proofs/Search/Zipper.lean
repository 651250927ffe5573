import IndexSearch.Proofs.Search.Sweep

/-!
# Match lists as zippers

A cursor is a number into a list that may shrink under it. To its user it is a zipper: two plain
lists, of the values before it and of those from it on. Each of its operations is one on the ends
where the two lists meet, with the same answer, so whatever is done with a list and its cursors can
be read off plain lists.

A walk replaces or removes the value under the cursor and goes on behind it, as a sweep does. It
meets every value once, whatever it decides on the way.
-/

namespace IndexSearch

variable {α : Type}

inductive CursorStep (α : Type) where
  | look
  | edit (change : α → α)
  | next
  | remove

inductive CursorAnswer (α : Type) where
  | value (found : Option α)
  | moved (isOnValue : Bool)
  | removed (result : Option (α × Bool))
deriving DecidableEq, Repr

/-- What a user does with a list. A cursor lives for one session. -/
inductive ListAction (α : Type) where
  | pushBack (value : α)
  | clear
  | session (steps : List (CursorStep α))

section Runs

variable {σ τ ι ρ : Type}

/-- The answers to a sequence of inputs and the state at its end. -/
def runAll (respond : σ → ι → ρ × σ) (state : σ) : List ι → List ρ × σ
  | [] => ([], state)
  | input :: inputs =>
    let (answer, next) := respond state input
    let (answers, last) := runAll respond next inputs
    (answer :: answers, last)

/-- If each input has one answer in both of two systems, and leaves states that belong together,
so has every sequence of inputs. -/
theorem runAll_simulates {respond : σ → ι → ρ × σ} {respond' : τ → ι → ρ × τ} {view : σ → τ}
    (simulates : ∀ state input,
      respond' (view state) input = Prod.map id view (respond state input))
    (state : σ) (inputs : List ι) :
    runAll respond' (view state) inputs = Prod.map id view (runAll respond state inputs) := by
  induction inputs generalizing state with
  | nil => rfl
  | cons input inputs ih =>
    have hstep := simulates state input
    have hrest := ih (respond state input).2
    simp only [runAll, hstep, Prod.map_fst, Prod.map_snd, id_eq, hrest]
    rfl

end Runs

/-- The values before a position and those from it on. -/
structure Zipper (α : Type) where
  before : List α
  after : List α
deriving DecidableEq, Repr

namespace Zipper

def items (zipper : Zipper α) : List α :=
  zipper.before ++ zipper.after

/-- Each step concerns the first value after the position, if there is one. -/
def perform (zipper : Zipper α) : CursorStep α → CursorAnswer α × Zipper α
  | .look => (.value zipper.after.head?, zipper)
  | .edit change =>
    (.value zipper.after.head?, { zipper with after := zipper.after.modifyHead change })
  | .next =>
    match zipper.after with
    | [] => (.moved false, zipper)
    | value :: rest => (.moved !rest.isEmpty, ⟨zipper.before ++ [value], rest⟩)
  | .remove =>
    match zipper.after with
    | [] => (.removed none, zipper)
    | value :: rest =>
      (.removed (some (value, zipper.before.isEmpty && rest.isEmpty)), ⟨zipper.before, rest⟩)

/-- What an action does to plain lists. A session begins before the first value. -/
def act (items : List α) : ListAction α → List (CursorAnswer α) × List α
  | .pushBack value => ([], items ++ [value])
  | .clear => ([], [])
  | .session steps => Prod.map id Zipper.items (runAll perform ⟨[], items⟩ steps)

end Zipper

namespace MatchList

namespace Cursor

def edit (change : α → α) (cursor : Cursor α) : Cursor α :=
  match cursor.current? with
  | none => cursor
  | some value => cursor.replace (change value)

def perform (cursor : Cursor α) : CursorStep α → CursorAnswer α × Cursor α
  | .look => (.value cursor.current?, cursor)
  | .edit change => (.value cursor.current?, cursor.edit change)
  | .next => (.moved cursor.next.onValue, cursor.next)
  | .remove => (.removed cursor.remove.1, cursor.remove.2)

/-- A cursor as its user sees it. -/
def zipper (cursor : Cursor α) : Zipper α :=
  ⟨cursor.passed, cursor.ahead⟩

end Cursor

def act (list : MatchList α) : ListAction α → List (CursorAnswer α) × MatchList α
  | .pushBack value => ([], list.pushBack value)
  | .clear => ([], .empty)
  | .session steps => Prod.map id Cursor.list (runAll Cursor.perform list.cursor steps)

namespace Cursor

variable {cursor last : Cursor α} {value : α}

theorem zipper_edit (cursor : Cursor α) (change : α → α) :
    (cursor.edit change).zipper = ⟨cursor.passed, cursor.ahead.modifyHead change⟩ := by
  cases h : cursor.current? with
  | none =>
    simp only [edit, h, zipper, ahead_of_current?_none h]
    rfl
  | some value =>
    simp only [edit, h, zipper, passed_replace, ahead_replace h, ahead_of_current? h]
    rfl

theorem zipper_next (h : cursor.current? = some value) :
    cursor.next.zipper = ⟨cursor.passed ++ [value], cursor.items.drop (cursor.index + 1)⟩ := by
  rw [zipper, passed_next h, ahead_next h]

theorem zipper_remove (h : cursor.current? = some value) :
    cursor.remove.2.zipper = ⟨cursor.passed, cursor.items.drop (cursor.index + 1)⟩ := by
  rw [zipper, passed_remove h, ahead_remove h]

theorem onValue_eq (cursor : Cursor α) : cursor.onValue = !cursor.ahead.isEmpty := by
  by_cases h : cursor.index < cursor.items.length
  · simp [onValue, ahead, h]
  · simp [onValue, ahead, h, Nat.le_of_not_lt h]

/-- The list is empty after a removal if nothing was before the value and nothing behind it. -/
theorem remove_answer (h : cursor.current? = some value) :
    cursor.remove.1 = some (value,
      cursor.passed.isEmpty && (cursor.items.drop (cursor.index + 1)).isEmpty) := by
  have hempty : cursor.remove.2.items.isEmpty =
      (cursor.passed.isEmpty && (cursor.items.drop (cursor.index + 1)).isEmpty) := by
    rw [items_remove h]
    cases cursor.passed <;> rfl
  rw [← hempty]
  simp only [remove, h]

theorem perform_zipper (cursor : Cursor α) (step : CursorStep α) :
    cursor.zipper.perform step = Prod.map id zipper (cursor.perform step) := by
  have hhead : cursor.ahead.head? = cursor.current? := List.head?_drop
  cases step with
  | look => simp only [Zipper.perform, perform, zipper, hhead, Prod.map_apply, id_eq]
  | edit change =>
    simp only [Zipper.perform, perform, Prod.map_apply, zipper_edit, id_eq]
    rw [zipper, hhead]
  | next =>
    simp only [Zipper.perform, perform, Prod.map_apply, id_eq]
    cases h : cursor.current? with
    | none =>
      have hstay : cursor.next = cursor := by
        rw [next, if_neg (Nat.not_lt.mpr (List.getElem?_eq_none_iff.mp h))]
      rw [hstay, onValue_eq]
      simp [zipper, ahead_of_current?_none h]
    | some value =>
      rw [onValue_eq, zipper_next h, ahead_next h]
      simp [zipper, ahead_of_current? h]
  | remove =>
    simp only [Zipper.perform, perform, Prod.map_apply, id_eq]
    cases h : cursor.current? with
    | none => simp [remove, h, zipper, ahead_of_current?_none h]
    | some value =>
      rw [remove_answer h, zipper_remove h]
      simp [zipper, ahead_of_current? h]

/-- A walk with the values that it has met, each with its replacement or none if it was removed. -/
inductive Walk : Cursor α → List (α × Option α) → Cursor α → Prop
  | start (cursor : Cursor α) : Walk cursor [] cursor
  | keep {cursor last : Cursor α} {value : α} {visits : List (α × Option α)}
      (current : cursor.current? = some value) (other : α)
      (walk : Walk (cursor.replace other).next visits last) :
      Walk cursor ((value, some other) :: visits) last
  | drop {cursor last : Cursor α} {value : α} {visits : List (α × Option α)}
      (current : cursor.current? = some value) (walk : Walk cursor.remove.2 visits last) :
      Walk cursor ((value, none) :: visits) last

variable {visits : List (α × Option α)}

/-- What was ahead of a walk has been met, each value once, or is still ahead. -/
theorem Walk.ahead_eq (walk : Walk cursor visits last) :
    cursor.ahead = visits.map Prod.fst ++ last.ahead := by
  induction walk with
  | start => rfl
  | keep current other _ ih =>
    rw [ahead_replace_next current] at ih
    rw [ahead_of_current? current, ih]
    rfl
  | drop current _ ih =>
    rw [ahead_remove current] at ih
    rw [ahead_of_current? current, ih]
    rfl

theorem Walk.passed_eq (walk : Walk cursor visits last) :
    last.passed = cursor.passed ++ visits.filterMap Prod.snd := by
  induction walk with
  | start => exact (List.append_nil _).symm
  | keep current other _ ih => simp [ih, passed_replace_next current]
  | drop current _ ih => simp [ih, passed_remove current]

/-- A sweep is a walk to the end that decides by the value alone. -/
theorem exists_walk_sweep (image : α → Option α) (cursor : Cursor α) (emptied : Bool) :
    ∃ visits last, Walk cursor visits last ∧ last.current? = none ∧
      (cursor.sweep image emptied).1 = last.list ∧ ∀ visit ∈ visits, visit.2 = image visit.1 := by
  fun_induction sweep image cursor emptied with
  | case1 cursor emptied h =>
    exact ⟨[], cursor, .start cursor, h, rfl, fun _ hmem => absurd hmem List.not_mem_nil⟩
  | case2 cursor emptied value h value' himage _ ih =>
    obtain ⟨visits, last, hwalk, hend, hlist, hvisits⟩ := ih
    refine ⟨_, last, .keep h value' hwalk, hend, hlist, ?_⟩
    exact List.forall_mem_cons.mpr ⟨himage.symm, hvisits⟩
  | case3 cursor emptied value h himage _ ih =>
    obtain ⟨visits, last, hwalk, hend, hlist, hvisits⟩ := ih
    refine ⟨_, last, .drop h hwalk, hend, hlist, ?_⟩
    exact List.forall_mem_cons.mpr ⟨himage.symm, hvisits⟩

theorem items_of_current?_none (h : last.current? = none) : last.items = last.passed := by
  have hitems := last.passed_append_ahead
  rw [ahead_of_current?_none h, List.append_nil] at hitems
  exact hitems.symm

theorem current?_eq_none_iff : last.current? = none ↔ last.ahead = [] := by
  have hhead : last.ahead.head? = last.current? := List.head?_drop
  rw [← hhead, List.head?_eq_none_iff]

end Cursor

variable {visits : List (α × Option α)} {last : Cursor α}

/-- How a walk from the first value of a list stands to the list. -/
structure Traverses (list : MatchList α) (visits : List (α × Option α)) (last : Cursor α) :
    Prop where
  in_order : visits.map Prod.fst <+: list.items
  ends_iff : last.current? = none ↔ visits.length = list.size
  all_met : last.current? = none → visits.map Prod.fst = list.items
  kept : last.current? = none → last.items = visits.filterMap Prod.snd

theorem traverses_of_walk (list : MatchList α) (walk : Cursor.Walk list.cursor visits last) :
    list.Traverses visits last := by
  have hpassed : last.passed = visits.filterMap Prod.snd := walk.passed_eq
  have hitems : list.items = visits.map Prod.fst ++ last.ahead := walk.ahead_eq
  have hmet : last.current? = none → visits.map Prod.fst = list.items := by
    intro hend
    rw [hitems, Cursor.ahead_of_current?_none hend, List.append_nil]
  refine ⟨⟨last.ahead, hitems.symm⟩, ?_, hmet, fun hend => ?_⟩
  · have hsize : list.size = visits.length + last.ahead.length := by
      rw [size, hitems, List.length_append, List.length_map]
    rw [Cursor.current?_eq_none_iff, ← List.length_eq_zero_iff]
    omega
  · rw [Cursor.items_of_current?_none hend, hpassed]

theorem act_items (list : MatchList α) (action : ListAction α) :
    Zipper.act list.items action = Prod.map id items (list.act action) := by
  cases action with
  | pushBack value => rfl
  | clear => rfl
  | session steps =>
    have hstart : (⟨[], list.items⟩ : Zipper α) = list.cursor.zipper := rfl
    have hitems : (Zipper.items ∘ Cursor.zipper : Cursor α → List α) = items ∘ Cursor.list := by
      funext cursor
      exact cursor.passed_append_ahead
    rw [Zipper.act, act, hstart, runAll_simulates Cursor.perform_zipper, Prod.map_map,
      Prod.map_map, hitems]

/-- Whatever is done with a list and its cursors, the answers and the values left are those of a
zipper over plain lists. A walk ends after as many steps as the list had values, meets each of them
once in order, and leaves those that it kept, in order. A sweep is such a walk to the end. -/
theorem cursor_refines_zipper (list : MatchList α) :
    (∀ actions, (runAll act list actions).1 = (runAll Zipper.act list.items actions).1 ∧
      (runAll act list actions).2.items = (runAll Zipper.act list.items actions).2) ∧
    (∀ visits last, Cursor.Walk list.cursor visits last → list.Traverses visits last) ∧
    ∀ image : α → Option α, ∃ visits last, Cursor.Walk list.cursor visits last ∧
      last.current? = none ∧ (list.sweep image).1 = last.list ∧
      ∀ visit ∈ visits, visit.2 = image visit.1 := by
  refine ⟨fun actions => ?_, fun visits last walk => list.traverses_of_walk walk,
    fun image => list.cursor.exists_walk_sweep image false⟩
  rw [runAll_simulates act_items]
  exact ⟨rfl, rfl⟩

/-- A walk over three values that changes the first, removes the second and keeps the third, and a
session that removes more than there is. -/
theorem cursor_refines_zipper_emptied :
    Cursor.Walk (MatchList.cursor ⟨[1, 2, 3]⟩) [(1, some 10), (2, none), (3, some 3)]
        ⟨[10, 3], 2⟩ ∧
      Traverses ⟨[1, 2, 3]⟩ [(1, some 10), (2, none), (3, some 3)] ⟨[10, 3], 2⟩ ∧
      (runAll act ⟨[7, 8]⟩ [.session [.next, .remove, .remove, .edit (· + 1), .next],
          .session [.edit (· + 1), .remove], .pushBack 9]).1 =
        [[.moved true, .removed (some (8, false)), .removed none, .value none, .moved false],
          [.value (some 7), .removed (some (8, true))], []] := by
  have walk : Cursor.Walk (MatchList.cursor ⟨[1, 2, 3]⟩) [(1, some 10), (2, none), (3, some 3)]
      ⟨[10, 3], 2⟩ := .keep rfl 10 (.drop rfl (.keep rfl 3 (.start _)))
  refine ⟨walk, (cursor_refines_zipper _).2.1 _ _ walk, ?_⟩
  rw [((cursor_refines_zipper _).1 _).1]
  rfl

end MatchList

end IndexSearch
