import IndexSearch.Search.Engine
import IndexSearch.Search.Words
import IndexSearch.Text.Numeral
import IndexSearch.Text.Utf8

/-!
# The console

An interactive session: a prompt for every line of the input and one at its end, and below each
prompt what the line's search found. Blank lines find nothing and say so by silence. The session
breaks off at a line that is not UTF-8, and where its output has no more room.
-/

namespace IndexSearch

inductive ConsoleFault where
  | badText
  | outputFull
  | breach (breach : Breach)
deriving DecidableEq, Repr

def ConsoleFault.message : ConsoleFault → Text
  | .badText => "stream did not contain valid UTF-8".toList
  | .outputFull => "failed to write whole buffer".toList
  | .breach cause => cause.message

/-- Where the output of a session goes: the bytes that it has taken, and the number of bytes that
it still takes, if its room is limited. -/
structure Outlet where
  taken : Bytes := []
  room : Option Nat := none
deriving DecidableEq, Repr

namespace Outlet

/-- Writes some bytes as far as there is room for them. -/
def write (outlet : Outlet) (bytes : Bytes) : Except ConsoleFault Unit × Outlet :=
  match outlet.room with
  | none => (.ok (), ⟨outlet.taken ++ bytes, none⟩)
  | some room =>
    let after := ⟨outlet.taken ++ bytes.take room, some (room - bytes.length)⟩
    if bytes.length ≤ room then (.ok (), after) else (.error .outputFull, after)

/-- Writes pieces of text one after the other, up to the first that fails. -/
def print (outlet : Outlet) : List Text → Except ConsoleFault Unit × Outlet
  | [] => (.ok (), outlet)
  | piece :: pieces =>
    match outlet.write (Utf8.encode piece) with
    | (.error fault, outlet) => (.error fault, outlet)
    | (.ok _, outlet) => outlet.print pieces

end Outlet

structure Session where
  output : Bytes
  outcome : Except ConsoleFault Unit

namespace Console

def prompt : List Text :=
  ["Enter query:".toList, "\n".toList]

def hitLine (hit : Hit) : List Text :=
  [" ".toList, hit.name, " (".toList, Numeral.render hit.rank.toNat, ")".toList, "\n".toList]

def reply (hits : List Hit) : List Text :=
  if hits.isEmpty then [" [no results]\n".toList] else hits.flatMap hitLine

def stripReturn (line : Bytes) : Bytes :=
  if line.getLast? = some 13 then line.dropLast else line

/-- Cuts the first line from an input. A line feed ends a line, together with a carriage return
before it; where none is left, the rest is a line if there is any. -/
def cutLine? (input : Bytes) : Option (Bytes × Bytes) :=
  match input.dropWhile (· != 10) with
  | _ :: rest => some (stripReturn (input.takeWhile (· != 10)), rest)
  | [] => if input.isEmpty then none else some (input, [])

theorem length_of_cutLine? {input line rest : Bytes} (h : cutLine? input = some (line, rest)) :
    rest.length < input.length := by
  rw [cutLine?] at h
  split at h
  · rename_i feed after hdrop
    cases h
    have hsuffix := (List.dropWhile_suffix (· != 10) (l := input)).length_le
    rw [hdrop, List.length_cons] at hsuffix
    omega
  · split at h
    · cases h
    · rename_i nonempty
      cases h
      exact List.length_pos_iff.mpr (by simpa using nonempty)

/-- The pieces that are printed below the prompt for a line, by a given way to search. -/
def respondBy (line : Bytes) (search : Search) : Except ConsoleFault (List Text) :=
  match Utf8.decode? line with
  | none => .error .badText
  | some line =>
    let terms := searchWords line
    if terms.isEmpty then .ok []
    else
      match search terms with
      | .ok hits => .ok (reply hits)
      | .error cause => .error (.breach cause)

def respond (engine : Engine) (line : Bytes) : Except ConsoleFault (List Text) :=
  respondBy line engine.search

/-- Prompts for lines and answers them until the input ends or something fails. -/
def converse (engine : Engine) (input : Bytes) (outlet : Outlet) :
    Except ConsoleFault Unit × Outlet :=
  match outlet.print prompt with
  | (.error fault, outlet) => (.error fault, outlet)
  | (.ok _, outlet) =>
    match _hcut : cutLine? input with
    | none => (.ok (), outlet)
    | some (line, rest) =>
      match respond engine line with
      | .error fault => (.error fault, outlet)
      | .ok pieces =>
        match outlet.print pieces with
        | (.error fault, outlet) => (.error fault, outlet)
        | (.ok _, outlet) => converse engine rest outlet
termination_by input.length
decreasing_by exact length_of_cutLine? _hcut

def run (engine : Engine) (input : Bytes) (room : Option Nat) : Session :=
  let (outcome, outlet) := converse engine input { room }
  ⟨outlet.taken, outcome⟩

end Console

end IndexSearch
