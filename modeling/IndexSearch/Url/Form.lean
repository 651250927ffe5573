import IndexSearch.Url.Percent

/-!
# Form data

The name and value pairs of a query: ampersands separate the pairs, the first equals sign of a
pair its two sides, a plus sign is a space, and the rest is percent-coded UTF-8.
-/

namespace IndexSearch.Form

def decode (bytes : Bytes) : Text :=
  Utf8.decodeLossy (Percent.decode (bytes.map fun b => if b = 43 then 32 else b))

/-- A pair without an equals sign has an empty value. -/
def decodePair (bytes : Bytes) : Text × Text :=
  let (name, value) := bytes.span (· != 61)
  (decode name, decode (value.drop 1))

def pairs (query : Text) : List (Text × Text) :=
  (((Utf8.encode query).splitOnP (· == 38)).filter fun pair => !pair.isEmpty).map decodePair

def value? (query : Text) (name : Text) : Option Text :=
  ((pairs query).find? fun pair => decide (pair.1 = name)).map Prod.snd

end IndexSearch.Form
