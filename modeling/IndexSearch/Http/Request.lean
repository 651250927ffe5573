import IndexSearch.Table
import IndexSearch.Text.Blank
import IndexSearch.Text.LowerCase

/-!
# Requests

A request is a path and a table of headers. Reading a head never fails: a request line without
a second token asks for the root, and a line that is not a header is passed over.
-/

namespace IndexSearch

/-- A request: its path and its headers, under their normalised names. -/
structure Request where
  path : Text
  headers : Table Text Text
deriving DecidableEq, Repr

namespace Request

def rootPath : Text :=
  "/".toList

def ofPath (path : Text) : Request :=
  ⟨path, .empty⟩

def normaliseName (name : Text) : Text :=
  Text.lower (Text.trim name)

/-- The request with a header set; a repeated name replaces the earlier value. -/
def addHeader (request : Request) (name value : Text) : Request :=
  { request with headers := request.headers.insert (normaliseName name) (Text.trim value) }

def header? (request : Request) (name : Text) : Option Text :=
  request.headers.get? name

def headerCount (request : Request) : Nat :=
  request.headers.size

def wantsClose (request : Request) : Bool :=
  request.header? "connection".toList == some "close".toList

/-- A line is a header if a colon separates two non-empty parts; the first colon counts. -/
def cutHeader? (line : Text) : Option (Text × Text) :=
  match line.span (· ≠ ':') with
  | (name, _ :: value) => if name.isEmpty || value.isEmpty then none else some (name, value)
  | (_, []) => none

/-- The second of the tokens that single spaces separate. -/
def pathOfLine (line : Text) : Text :=
  (line.splitOnP (· == ' '))[1]?.getD rootPath

/-- A line ends at every carriage return and at every line feed. -/
def isLineEnd (c : Char) : Bool :=
  c == '\r' || c == '\n'

def parse (head : Text) : Request :=
  match head.splitOnP isLineEnd with
  | [] => ofPath rootPath
  | first :: others =>
    (others.filterMap cutHeader?).foldl (fun request header => request.addHeader header.1 header.2)
      (ofPath (pathOfLine first))

end Request

end IndexSearch
