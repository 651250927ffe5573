import IndexSearch.Text.Basic
import IndexSearch.Text.CaseTable

/-!
# Lower case

The full Unicode lower-casing of a text. A capital sigma becomes a final sigma at the end of a
word and a medial one elsewhere, a capital I with a dot becomes two code points, and every other
code point is mapped by itself.
-/

namespace IndexSearch.Text

def lowerCode? (n : Nat) : Option Nat :=
  CodePoint.image? CaseTable.lowerRuns n

def isIgnorable (c : Char) : Bool :=
  CodePoint.within CaseTable.ignorableRanges c.toNat

def isCased (c : Char) : Bool :=
  CodePoint.within CaseTable.casedRanges c.toNat

/-- Whether a cased letter comes first once ignorable characters are passed over. -/
def meetsCased (text : Text) : Bool :=
  match text.dropWhile isIgnorable with
  | [] => false
  | c :: _ => isCased c

/-- The lower case of a character, given the text before it, last character first, and the text
after it. -/
def lowerChar (before : Text) (c : Char) (after : Text) : Text :=
  if c = 'Σ' then [if meetsCased before && !meetsCased after then 'ς' else 'σ']
  else if c = 'İ' then ['i', '\u0307']
  else
    match lowerCode? c.toNat with
    | some n => [Char.ofNat n]
    | none => [c]

/-- The lower case of a text that follows `before`, given last character first. -/
def lowerAfter : Text → Text → Text
  | _, [] => []
  | before, c :: rest => lowerChar before c rest ++ lowerAfter (c :: before) rest

def lower (text : Text) : Text :=
  lowerAfter [] text

end IndexSearch.Text
