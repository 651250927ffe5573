import IndexSearch.Text.Basic
import IndexSearch.Text.CodePoint
import IndexSearch.Url.Domain.MarkTable

/-!
# Marks

Characters that attach to the one before them.
-/

namespace IndexSearch.Domain

/-- Whether a character is a mark that takes no room of its own. -/
def isNonspacing (c : Char) : Bool :=
  CodePoint.within MarkTable.nonspacingRanges c.toNat

def isMark (c : Char) : Bool :=
  isNonspacing c || CodePoint.within MarkTable.spacingRanges c.toNat

def beginsWithMark (label : Text) : Bool :=
  label.head?.any isMark

end IndexSearch.Domain
