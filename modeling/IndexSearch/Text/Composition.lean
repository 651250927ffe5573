import IndexSearch.Text.Basic
import IndexSearch.Text.CompositionTable

/-!
# Canonical composition

A normal form in which equivalent texts are equal. Code points are taken apart, the marks after a
starter are put into the order of their classes, and a starter is put together with such marks
after it as no other mark blocks.
-/

namespace IndexSearch

namespace Composition

/-- The combining class of a code point; a starter has class zero. -/
def classOf (n : Nat) : Nat :=
  match CompositionTable.classRanges.find? fun range => decide (range.1 ≤ n ∧ n ≤ range.2.1) with
  | some range => range.2.2
  | none => 0

def hangulLetters (n : Nat) : List Nat :=
  let syllable := n - 0xAC00
  let letters := [0x1100 + syllable / 588, 0x1161 + syllable % 588 / 28]
  if syllable % 28 = 0 then letters else letters ++ [0x11A7 + syllable % 28]

/-- What a code point is equivalent to, taken apart once. -/
def parts? (n : Nat) : Option (List Nat) :=
  if 0xAC00 ≤ n ∧ n ≤ 0xD7A3 then some (hangulLetters n)
  else
    match CompositionTable.singletons.lookup n with
    | some other => some [other]
    | none =>
      ((CompositionTable.composites.lookup n).or (CompositionTable.excluded.lookup n)).map
        fun parts => [parts.1, parts.2]

/-- A code point taken apart as far as `depth` steps lead. -/
def takeApart : Nat → Nat → List Nat
  | 0, n => [n]
  | depth + 1, n =>
    match parts? n with
    | some parts => parts.flatMap (takeApart depth)
    | none => [n]

/-- No code point can be taken apart more often. -/
def maxDepth : Nat := 3

/-- The syllable or other code point that two code points make together. -/
def whole? (first second : Nat) : Option Nat :=
  if 0x1100 ≤ first ∧ first ≤ 0x1112 ∧ 0x1161 ≤ second ∧ second ≤ 0x1175 then
    some (0xAC00 + ((first - 0x1100) * 21 + (second - 0x1161)) * 28)
  else if 0xAC00 ≤ first ∧ first ≤ 0xD7A3 ∧ (first - 0xAC00) % 28 = 0
      ∧ 0x11A8 ≤ second ∧ second ≤ 0x11C2 then
    some (first + (second - 0x11A7))
  else
    (CompositionTable.composites.find? fun entry => entry.2 == (first, second)).map Prod.fst

/-- Puts a code point in front of code points in order, behind marks of a lower class. -/
def insert (n : Nat) : List Nat → List Nat
  | [] => [n]
  | m :: rest =>
    if 0 < classOf m ∧ classOf m < classOf n then m :: insert n rest else n :: m :: rest

def order (codes : List Nat) : List Nat :=
  codes.foldr insert []

/-- Whether a mark is kept from its starter by the last mark between them. -/
def isBlocked (passed : List Nat) (n : Nat) : Bool :=
  match passed with
  | [] => false
  | m :: _ => decide (classOf n ≤ classOf m)

/-- Puts a starter together with code points after it. The marks that it has passed come last mark
first. -/
def composeAfter (starter : Nat) (passed : List Nat) : List Nat → List Nat
  | [] => starter :: passed.reverse
  | n :: rest =>
    match if isBlocked passed n then none else whole? starter n with
    | some whole => composeAfter whole passed rest
    | none =>
      if classOf n = 0 then starter :: (passed.reverse ++ composeAfter n [] rest)
      else composeAfter starter (n :: passed) rest

def compose : List Nat → List Nat
  | [] => []
  | n :: rest => if classOf n = 0 then composeAfter n [] rest else n :: compose rest

end Composition

def Text.composed (text : Text) : Text :=
  (Composition.compose
    (Composition.order (text.flatMap fun c => Composition.takeApart Composition.maxDepth c.toNat))).map
    Char.ofNat

end IndexSearch
