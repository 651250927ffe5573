import IndexSearch.Text.Composition
import IndexSearch.Url.Domain.JoiningTable
import IndexSearch.Url.Domain.Mark

/-!
# Joiners

The two invisible characters that join their neighbours or keep them apart. They are allowed where
they can be seen: after a mark that kills a vowel, and the one that keeps apart also between letters
that would join.
-/

namespace IndexSearch.Domain

/-- Whether a character is passed over when letters join. -/
def isTransparent (c : Char) : Bool :=
  isNonspacing c || c.toNat == 0x1E94B

def joinsNext (c : Char) : Bool :=
  CodePoint.within JoiningTable.dualJoiningRanges c.toNat
    || CodePoint.within JoiningTable.leftJoiningRanges c.toNat

def joinsPrevious (c : Char) : Bool :=
  CodePoint.within JoiningTable.dualJoiningRanges c.toNat
    || CodePoint.within JoiningTable.rightJoiningRanges c.toNat

/-- Whether a character is a mark that kills the vowel of the letter before it. -/
def isVirama (c : Char) : Bool :=
  Composition.classOf c.toNat == 9

/-- Whether a joiner may stand between two texts, the first given last character first. -/
def admitsJoiner (joiner : Char) (before after : Text) : Bool :=
  before.head?.any isVirama
    || (joiner == '\u200C' && (before.dropWhile isTransparent).head?.any joinsNext
      && (after.dropWhile isTransparent).head?.any joinsPrevious)

/-- Whether the joiners of a text that follows `before`, given last character first, are all
allowed. -/
def joinersFit : Text → Text → Bool
  | _, [] => true
  | before, c :: rest =>
    ((c != '\u200C' && c != '\u200D') || admitsJoiner c before rest) && joinersFit (c :: before) rest

end IndexSearch.Domain
