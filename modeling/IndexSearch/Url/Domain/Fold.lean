import IndexSearch.Text.Composition
import IndexSearch.Text.LowerCase
import IndexSearch.Url.Domain.FoldTable

/-!
# Folded domains

Two spellings of a domain are the same if they fold to the same text. Folding maps every code point
by itself, leaves out those that stand for nothing, and composes the rest; it fails on a code point
that may not occur.
-/

namespace IndexSearch.Domain

def isDisallowed (c : Char) : Bool :=
  CodePoint.within FoldTable.disallowedRanges c.toNat

def foldChar (c : Char) : Text :=
  let n := (Text.lowerCode? c.toNat).getD c.toNat
  if CodePoint.within FoldTable.ignoredRanges n then []
  else
    match FoldTable.expansions.lookup n with
    | some images => images.map Char.ofNat
    | none => [Char.ofNat ((CodePoint.image? FoldTable.runs n).getD n)]

def fold? (text : Text) : Option Text :=
  if text.any isDisallowed then none else some (Text.composed (text.flatMap foldChar))

end IndexSearch.Domain
