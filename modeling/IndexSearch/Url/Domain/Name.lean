import IndexSearch.Url.Address
import IndexSearch.Url.Domain.Direction
import IndexSearch.Url.Domain.Fold
import IndexSearch.Url.Domain.Joiner
import IndexSearch.Url.Domain.Punycode

/-!
# Names of domains

A domain is a list of labels between dots. Reading one folds it, replaces each label that is written
in ASCII for another script by that label, and fails unless the labels are sound. Labels may be
empty.
-/

namespace IndexSearch.Domain

def isForbidden (c : Char) : Bool :=
  decide (c.toNat ≤ 0x20) || c == '\x7F'
    || ['#', '%', '/', ':', '<', '>', '?', '@', '[', '\\', ']', '^', '|'].contains c

def isAscii (label : Text) : Bool :=
  label.all fun c => decide (c.toNat < 0x80)

/-- The length up to which a label beyond ASCII is written in ASCII. -/
def maxLabel : Nat := 1000

/-- The length up to which a label is read that stands for one beyond ASCII. -/
def maxEncoded : Nat := 2000

def isSound (label : Text) : Bool :=
  !beginsWithMark label && joinersFit [] label && (isAscii label || decide (label.length ≤ maxLabel))

/-- What a folded label stands for. One that begins with `xn--` has to stand for a folded label that
ASCII cannot write. -/
def readLabel? (label : Text) : Option Text :=
  if "xn--".toList.isPrefixOf label then
    let encoded := label.drop 4
    if maxEncoded < encoded.length then none
    else do
      let label ← Punycode.decode? encoded
      if isAscii label || fold? label != some label || label.any isForbidden || label.contains '.'
          || !isSound label then none
      else some label
  else if isSound label then some label else none

def labels? (text : Text) : Option (List Text) := do
  let folded ← fold? text
  if folded.any isForbidden then none
  else
    let labels ← (folded.splitOnP (· == '.')).mapM readLabel?
    if areUnambiguous labels then some labels else none

end IndexSearch.Domain
