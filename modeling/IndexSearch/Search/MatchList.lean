/-!
# Match lists

An ordered list of values and a cursor that walks it, edits the value under it and removes it.
A sweep visits every value once, replacing or removing it.
-/

namespace IndexSearch

variable {α : Type}

structure MatchList (α : Type) where
  items : List α
deriving DecidableEq, Repr

namespace MatchList

def empty : MatchList α :=
  ⟨[]⟩

def pushBack (list : MatchList α) (value : α) : MatchList α :=
  ⟨list.items ++ [value]⟩

def size (list : MatchList α) : Nat :=
  list.items.length

def isEmpty (list : MatchList α) : Bool :=
  list.items.isEmpty

/-- A position in a list; past the end when no value is left. -/
structure Cursor (α : Type) where
  items : List α
  index : Nat
deriving DecidableEq, Repr

def cursor (list : MatchList α) : Cursor α :=
  ⟨list.items, 0⟩

namespace Cursor

def list (cursor : Cursor α) : MatchList α :=
  ⟨cursor.items⟩

def current? (cursor : Cursor α) : Option α :=
  cursor.items[cursor.index]?

def replace (cursor : Cursor α) (value : α) : Cursor α :=
  { cursor with items := cursor.items.set cursor.index value }

/-- Steps to the next value; past the end the cursor stays where it is. -/
def next (cursor : Cursor α) : Cursor α :=
  if cursor.index < cursor.items.length then { cursor with index := cursor.index + 1 } else cursor

def onValue (cursor : Cursor α) : Bool :=
  decide (cursor.index < cursor.items.length)

/-- Removes the value under the cursor, which then stands on the value that followed. The result
is the removed value, with whether the list is now empty. -/
def remove (cursor : Cursor α) : Option (α × Bool) × Cursor α :=
  match cursor.current? with
  | none => (none, cursor)
  | some value =>
    let items := cursor.items.eraseIdx cursor.index
    (some (value, items.isEmpty), { cursor with items })

def remaining (cursor : Cursor α) : Nat :=
  cursor.items.length - cursor.index

theorem index_lt_of_current? {cursor : Cursor α} {value : α}
    (h : cursor.current? = some value) : cursor.index < cursor.items.length := by
  unfold current? at h
  exact (List.getElem?_eq_some_iff.mp h).1

theorem remaining_replace_next {cursor : Cursor α} {value : α}
    (h : cursor.current? = some value) (other : α) :
    (cursor.replace other).next.remaining < cursor.remaining := by
  have := index_lt_of_current? h
  simp only [replace, next, remaining, List.length_set, this, if_true]
  omega

theorem remaining_remove {cursor : Cursor α} {value : α}
    (h : cursor.current? = some value) : cursor.remove.2.remaining < cursor.remaining := by
  have := index_lt_of_current? h
  simp only [remove, h, remaining, List.length_eraseIdx, this, if_true]
  omega

/-- Walks from the cursor to the end, replacing each value by its image and removing the values
that have none. The flag says whether the last removal left the list empty. -/
def sweep (image : α → Option α) (cursor : Cursor α) (emptied : Bool) : MatchList α × Bool :=
  match h : cursor.current? with
  | none => (cursor.list, emptied)
  | some value =>
    match image value with
    | some value' =>
      have := remaining_replace_next h value'
      sweep image (cursor.replace value').next emptied
    | none =>
      have := remaining_remove h
      sweep image cursor.remove.2 ((cursor.remove.1.map Prod.snd).getD emptied)
termination_by cursor.remaining

end Cursor

def sweep (image : α → Option α) (list : MatchList α) : MatchList α × Bool :=
  list.cursor.sweep image false

end MatchList

end IndexSearch
