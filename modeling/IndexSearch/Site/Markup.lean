import IndexSearch.Text.Basic

/-!
# Markup

Text that is put into a page is escaped, so that it reads as text in an element and in a quoted
attribute alike.
-/

namespace IndexSearch.Markup

/-- A character as it is written in a page: the five that markup is made of become references. -/
def escapeChar : Char → Text
  | '&' => "&amp;".toList
  | '<' => "&lt;".toList
  | '>' => "&gt;".toList
  | '"' => "&quot;".toList
  | '\'' => "&apos;".toList
  | c => [c]

def escape (text : Text) : Text :=
  text.flatMap escapeChar

end IndexSearch.Markup
