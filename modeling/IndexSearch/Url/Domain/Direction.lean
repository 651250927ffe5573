import IndexSearch.Url.Domain.DirectionTable
import IndexSearch.Url.Domain.Mark

/-!
# Directions of labels

A domain with a character that is read from right to left is unambiguous only if every label has
one direction, which its first character gives, and ends in a character with a direction.
-/

namespace IndexSearch.Domain

inductive Direction where
  | leftToRight
  | rightToLeft
  | europeanDigit
  | arabicDigit
  | mark
  | neutral
deriving DecidableEq, Repr

def directionOf (c : Char) : Direction :=
  let n := c.toNat
  if CodePoint.within DirectionTable.rightToLeftRanges n then .rightToLeft
  else if CodePoint.within DirectionTable.europeanRanges n then .europeanDigit
  else if CodePoint.within DirectionTable.arabicRanges n then .arabicDigit
  else if CodePoint.within DirectionTable.neutralRanges n then .neutral
  else if isNonspacing c && !DirectionTable.leftToRightMarks.contains n then .mark
  else .leftToRight

/-- Whether directions after the first, without marks at their end, suit a label that is read from
left to right. -/
def suitLeftToRight (directions : List Direction) : Bool :=
  directions.all (fun d => d != .rightToLeft && d != .arabicDigit)
    && directions.getLast?.all (fun d => d == .leftToRight || d == .europeanDigit)

/-- Whether directions after the first, without marks at their end, suit a label that is read from
right to left. -/
def suitRightToLeft (directions : List Direction) : Bool :=
  directions.all (· != .leftToRight)
    && directions.getLast?.all (fun d => d == .rightToLeft || d == .europeanDigit || d == .arabicDigit)
    && !(directions.contains .europeanDigit && directions.contains .arabicDigit)

def hasOneDirection (label : Text) : Bool :=
  match label.map directionOf with
  | [] => true
  | first :: rest =>
    let rest := (rest.reverse.dropWhile (· == .mark)).reverse
    match first with
    | .leftToRight => suitLeftToRight rest
    | .rightToLeft => suitRightToLeft rest
    | _ => false

/-- Whether the labels of a domain are read from left to right or have one direction each. -/
def areUnambiguous (labels : List Text) : Bool :=
  !(labels.any fun label => label.any fun c =>
      directionOf c == .rightToLeft || directionOf c == .arabicDigit)
    || labels.all hasOneDirection

end IndexSearch.Domain
