import IndexSearch.Text.Basic

/-!
# White space

The Unicode property White_Space, trimming, and splitting into words.
-/

namespace IndexSearch.Text

/-- The twenty-five code points with the property White_Space. -/
def isBlank (c : Char) : Bool :=
  let n := c.toNat
  decide (9 ≤ n ∧ n ≤ 13) || n == 0x20 || n == 0x85 || n == 0xA0 || n == 0x1680
    || decide (0x2000 ≤ n ∧ n ≤ 0x200A) || n == 0x2028 || n == 0x2029 || n == 0x202F
    || n == 0x205F || n == 0x3000

def trimRight (text : Text) : Text :=
  (text.reverse.dropWhile isBlank).reverse

def trim (text : Text) : Text :=
  trimRight (text.dropWhile isBlank)

/-- The maximal runs of characters that are not white space, in order. -/
def words (text : Text) : List Text :=
  (text.splitOnP isBlank).filter (fun word => !word.isEmpty)

end IndexSearch.Text
