import IndexSearch.Text.Basic

/-!
# Media types

Which media types there are is not settled here. A file whose name does not tell one is plain text.
-/

namespace IndexSearch

/-- A way to tell the media type of a file from its name, where the name tells one. -/
class MediaType where
  ofName? : Text → Option Text

namespace MediaType

def plainText : Text :=
  "text/plain".toList

def ofName [types : MediaType] (name : Text) : Text :=
  (types.ofName? name).getD plainText

end MediaType

end IndexSearch
