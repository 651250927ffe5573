import IndexSearch.Text.Blank
import IndexSearch.Text.LowerCase

/-!
# Search words

The words of a line, in lower case.
-/

namespace IndexSearch

/-- The terms that a line asks for. -/
def searchWords (line : Text) : List Text :=
  (Text.lower line).words

end IndexSearch
