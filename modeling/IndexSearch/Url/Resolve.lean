import IndexSearch.Url.Host

/-!
# Resolving references

A reference is resolved against `http://localhost/` by the URL Standard. What is kept of the
result is its path and its query, both percent-coded; resolution fails where the reference has a
host or a port that cannot be read.
-/

namespace IndexSearch

structure Target where
  path : Text
  query : Option Text
deriving DecidableEq, Repr

/-- How a scheme treats slashes and hosts. -/
inductive SchemeKind where
  | special
  | file
  | other
deriving DecidableEq, Repr

namespace SchemeKind

def ofScheme (scheme : Text) : SchemeKind :=
  if scheme = "file".toList then .file
  else if ["http".toList, "https".toList, "ws".toList, "wss".toList, "ftp".toList].contains scheme
  then .special
  else .other

/-- A backslash is a slash except under schemes without rules of their own. -/
def isSlash (kind : SchemeKind) (c : Char) : Bool :=
  c == '/' || (c == '\\' && kind != .other)

end SchemeKind

namespace Target

/-- A path ends where a query or a fragment begins. -/
def endsPath (c : Char) : Bool :=
  c == '?' || c == '#'

def isSingleDot (segment : Text) : Bool :=
  [".", "%2e", "%2E"].any fun form => form.toList == segment

def isDoubleDot (segment : Text) : Bool :=
  ["..", ".%2e", ".%2E", "%2e.", "%2E.", "%2e%2e", "%2e%2E", "%2E%2e", "%2E%2E"].any
    fun form => form.toList == segment

def isLetter (c : Char) : Bool :=
  let n := c.toNat
  decide (97 ≤ n ∧ n ≤ 122) || decide (65 ≤ n ∧ n ≤ 90)

/-- A letter with a colon or a bar, which names a drive. -/
def isDriveLetter : Text → Bool
  | [letter, mark] => isLetter letter && (mark == ':' || mark == '|')
  | _ => false

/-- A drive letter, also with more after a backslash, is not left by a double dot. -/
def keepsPlace : Text → Bool
  | letter :: mark :: rest => isDriveLetter [letter, mark] && (rest.isEmpty || rest.head? == some '\\')
  | _ => false

/-- The segments without the last one; they are held last segment first. -/
def leave : List Text → List Text
  | [] => []
  | segment :: segments => if keepsPlace segment then segment :: segments else segments

/-- The drive letter that begins the path of a file has a colon. -/
def normalSegment (kind : SchemeKind) (segments : List Text) (segment : Text) : Text :=
  if kind = .file ∧ segments = [] ∧ isDriveLetter segment then segment.take 1 ++ [':'] else segment

/-- Adds a segment that a slash follows; dot segments stand for the place where they are. -/
def enter (kind : SchemeKind) (segments : List Text) (segment : Text) : List Text :=
  if isDoubleDot segment then leave segments
  else if isSingleDot segment then segments
  else normalSegment kind segments segment :: segments

/-- The path that segments make. The last one has no slash after it, and a dot segment there
leaves the path at the slash before it. -/
def joinSegments (kind : SchemeKind) : List Text → List Text → Text
  | segments, [] => segments.reverse.flatMap (· ++ ['/'])
  | segments, [last] =>
    if isDoubleDot last then (leave segments).reverse.flatMap (· ++ ['/'])
    else if isSingleDot last then segments.reverse.flatMap (· ++ ['/'])
    else segments.reverse.flatMap (· ++ ['/']) ++ normalSegment kind segments last
  | segments, segment :: rest => joinSegments kind (enter kind segments segment) rest

/-- The path of a text after its first slash. The path of a file has a single leading slash. -/
def pathOf (kind : SchemeKind) (text : Text) : Text :=
  let path := joinSegments kind [] ((Percent.encode Percent.inPathSet text).splitOnP kind.isSlash)
  '/' :: (if kind = .file then path.dropWhile (· == '/') else path)

def queryOf : Text → Option Text
  | '?' :: rest => some (Percent.encode Percent.inQuerySet (rest.takeWhile (· != '#')))
  | _ => none

def ofPath (kind : SchemeKind) (text : Text) : Target :=
  let (path, rest) := text.span (!endsPath ·)
  ⟨pathOf kind path, queryOf rest⟩

def afterHost (kind : SchemeKind) : Text → Target
  | [] => if kind = .other then ⟨[], none⟩ else ofPath kind []
  | c :: rest =>
    if c == '/' || kind.isSlash c then ofPath kind rest
    else if kind = .other ∧ endsPath c then ⟨[], queryOf (c :: rest)⟩
    else ofPath kind (c :: rest)

/-- Cuts the host from its port, at the first colon outside of brackets. -/
def cutPort : Bool → Text → Text × Text
  | _, [] => ([], [])
  | inside, c :: rest =>
    if c = ':' ∧ !inside then ([], c :: rest)
    else
      let inside := if c = '[' then true else if c = ']' then false else inside
      let (host, port) := cutPort inside rest
      (c :: host, port)

/-- What follows a port that can be read, which is at most 65535 and may be missing. -/
def afterPort? : Text → Option Text
  | [] => some []
  | _ :: rest =>
    let (digits, rest) := rest.span Char.isDigit
    if 65535 < (Numeral.parse? 10 digits).getD 0 then none
    else if rest.isEmpty || rest.head? == some '\\' then some rest
    else none

/-- Cuts the credentials from the host, at the last at-sign. -/
def cutCredentials (authority : Text) : Option Text × Text :=
  match SocketAddress.cutLast? '@' authority with
  | some (credentials, host) => (some credentials, host)
  | none => (none, authority)

/-- Whether a host can be read. Where a scheme has no rules of its own the host may be empty, if
it has neither credentials nor a port; a lone colon is no credentials. -/
def isHost (kind : SchemeKind) (credentials : Option Text) (host port : Text) : Bool :=
  if kind = .other then
    if host.isEmpty then port.isEmpty && (credentials == none || credentials == some [':'])
    else (Host.parseName? host).isSome
  else (Host.parse? host).isSome

def ofAuthority? (kind : SchemeKind) (text : Text) : Option Target :=
  let (authority, rest) := text.span fun c => !(c == '/' || kind.isSlash c || endsPath c)
  let (credentials, address) := cutCredentials authority
  let (host, port) := cutPort false address
  if isHost kind credentials host port then
    (afterPort? port).map fun between => afterHost kind (between ++ rest)
  else none

def ofFile? (text : Text) : Option Target :=
  match text with
  | a :: b :: rest =>
    if SchemeKind.file.isSlash a && SchemeKind.file.isSlash b then
      let (host, after) := rest.span fun c => !(SchemeKind.file.isSlash c || endsPath c)
      if isDriveLetter host then some (ofPath .file rest)
      else if host.isEmpty || (Host.parse? host).isSome then some (afterHost .file after)
      else none
    else some (afterHost .file text)
  | text => some (afterHost .file text)

def ofRelative? (text : Text) : Option Target :=
  match text with
  | [] => some ⟨['/'], none⟩
  | a :: rest =>
    if endsPath a then some ⟨['/'], queryOf text⟩
    else if SchemeKind.special.isSlash a then
      match rest with
      | b :: after =>
        if SchemeKind.special.isSlash b then
          ofAuthority? .special
            (if a = '/' ∧ b = '/' then after else text.dropWhile SchemeKind.special.isSlash)
        else some (ofPath .special rest)
      | [] => some (ofPath .special rest)
    else some (ofPath .special text)

/-- The target of what follows a scheme without rules of its own. -/
def ofOther? : Text → Option Target
  | '/' :: '/' :: rest => ofAuthority? .other rest
  | '/' :: rest => some (ofPath .other rest)
  | text =>
    let (path, rest) := text.span (!endsPath ·)
    some ⟨Percent.encode Percent.isControl path, queryOf rest⟩

def ofSpecial? (scheme : Text) (text : Text) : Option Target :=
  if scheme = "http".toList ∧ (text.takeWhile SchemeKind.special.isSlash).length < 2 then
    ofRelative? text
  else ofAuthority? .special (text.dropWhile SchemeKind.special.isSlash)

/-- The part of a reference that counts: no control characters or spaces at its ends, and no tabs
or line ends anywhere. -/
def clean (reference : Text) : Text :=
  let isEdge (c : Char) : Bool := decide (c.toNat ≤ 0x20)
  ((reference.dropWhile isEdge).reverse.dropWhile isEdge).reverse.filter
    fun c => !(c == '\t' || c == '\n' || c == '\r')

def inScheme (c : Char) : Bool :=
  isLetter c || c.isDigit || c == '+' || c == '-' || c == '.'

/-- Cuts the scheme, in lower case, from a reference that has one. -/
def cutScheme? (text : Text) : Option (Text × Text) :=
  match text with
  | [] => none
  | first :: _ =>
    if isLetter first then
      match text.span inScheme with
      | (scheme, ':' :: rest) => some (scheme.map Char.toLower, rest)
      | _ => none
    else none

/-- The target of a reference against `http://localhost/`. -/
def resolve? (reference : Text) : Option Target :=
  let text := clean reference
  match cutScheme? text with
  | none => ofRelative? text
  | some (scheme, rest) =>
    match SchemeKind.ofScheme scheme with
    | .file => ofFile? rest
    | .special => ofSpecial? scheme rest
    | .other => ofOther? rest

end Target

end IndexSearch
