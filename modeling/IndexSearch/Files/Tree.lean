import IndexSearch.Fault
import IndexSearch.Text.Utf8

/-!
# File systems

A file system is a list of directories, regular files and symbolic links, each at its absolute
path. Paths are resolved one name at a time: every name is looked up in a directory, a link is
replaced by its target, and at most forty links are followed. A path that is resolved by looking up
each path on the way in one piece may pass none that is too long to be handed over.
-/

namespace IndexSearch

/-- A path from the root of the file system, as the list of its names. -/
abbrev Path := List Text

inductive Node where
  | directory
  | file (contents : Bytes)
  | link (target : Text)
deriving DecidableEq, Repr

def FileSystem.isHere (name : Text) : Bool :=
  name.isEmpty || name == ['.']

/-- Whether a name can stand in a directory: it is no dot segment and has no slash. -/
def FileSystem.isEntryName (name : Text) : Bool :=
  !isHere name && name != ['.', '.'] && !name.contains '/'

/-- Nodes with their paths, the newest first. -/
abbrev Entries := List (Path × Node)

namespace Entries

/-- What stands at a path. The newest entry of a path counts, and the root is a directory without
an entry. -/
def node? (entries : Entries) (path : Path) : Option Node :=
  if path = [] then some .directory
  else (entries.find? fun entry => decide (entry.1 = path)).map Prod.snd

def isChain (entries : Entries) (path : Path) : Bool :=
  path.all FileSystem.isEntryName &&
    (List.range (path.length + 1)).all fun count =>
      entries.node? (path.take count) == some .directory

theorem isChain_nil (entries : Entries) : entries.isChain [] = true :=
  rfl

/-- A new entry that is not on the way to a path changes nothing there. -/
theorem isChain_cons {entries : Entries} {path : Path} (entry : Path × Node)
    (chain : entries.isChain path = true) (apart : ¬ entry.1 <+: path) :
    isChain (entry :: entries) path = true := by
  simp only [isChain, Bool.and_eq_true, List.all_eq_true] at chain ⊢
  refine ⟨chain.1, fun count hcount => ?_⟩
  have hne : entry.1 ≠ path.take count := fun heq => apart (heq ▸ List.take_prefix count path)
  simpa [node?, hne] using chain.2 count hcount

end Entries

/-- A tree of nodes and the directory in which relative paths begin. -/
structure FileSystem where
  entries : Entries
  workingDir : Path
  workingDir_isChain : entries.isChain workingDir = true
deriving DecidableEq, Repr

namespace FileSystem

/-- The file system of some entries. A working directory that does not stand there is replaced by
the root. -/
def ofEntries (entries : Entries) (workingDir : Path) : FileSystem :=
  if h : entries.isChain workingDir = true then ⟨entries, workingDir, h⟩
  else ⟨entries, [], Entries.isChain_nil entries⟩

def node? (files : FileSystem) (path : Path) : Option Node :=
  files.entries.node? path

def isDirectory (files : FileSystem) (path : Path) : Bool :=
  files.node? path == some .directory

/-- The names that the slashes of a path separate; an empty one repeats or ends a slash. -/
def namesOf (path : Text) : List Text :=
  path.splitOnP (· == '/')

def originOf (relativeTo : Path) (path : Text) : Path :=
  if path.head? = some '/' then [] else relativeTo

/-- The longest name of a directory entry, in bytes. -/
def maxName : Nat := 255

/-- The number of bytes at which a path is too long. -/
def pathLimit : Nat := 4096

def maxLinks : Nat := 40

def writtenLength (path : Path) : Nat :=
  (path.flatMap fun name => Utf8.encode ('/' :: name)).length

/-- Whether a resolved path is short enough to be handed to the system in one piece. -/
def fits (path : Path) : Bool :=
  decide (writtenLength path < pathLimit)

/-- The paths that a walk may pass if the system takes it: all of them, since it never writes one
out. -/
def anyLength (_ : Path) : Bool := true

/-- Walks from a resolved path along names, through such paths as `mayPass` admits and following at
most `links` links, to the resolved path at which the names end. -/
def walk (files : FileSystem) (mayPass : Path → Bool) (links : Nat) (path : Path)
    (names : List Text) : Except PathFault Path :=
  match names with
  | [] => .ok path
  | name :: rest =>
    if files.isDirectory path then
      if isHere name then files.walk mayPass links path rest
      else if name = ['.', '.'] then files.walk mayPass links path.dropLast rest
      else if maxName < (Utf8.encode name).length || !mayPass (path ++ [name]) then
        .error .nameTooLong
      else
        match files.node? (path ++ [name]) with
        | none => .error .notFound
        | some (.link target) =>
          match links with
          | 0 => .error .tooManyLinks
          | links + 1 => files.walk mayPass links (originOf path target) (namesOf target ++ rest)
        | some _ => files.walk mayPass links (path ++ [name]) rest
    else .error .notADirectory
termination_by (links, names.length)

/-- Whether a path can be handed to the system at all. -/
def hasNul (path : Text) : Bool :=
  path.contains '\x00'

def resolve (files : FileSystem) (mayPass : Path → Bool) (path : Text) : Except PathFault Path :=
  if path = [] then .error .notFound
  else if hasNul path then .error .nulInName
  else files.walk mayPass maxLinks (originOf files.workingDir path) (namesOf path)

/-- The node that a path leads to. A path that is looked up as a whole has a limit to its length. -/
def lookup (files : FileSystem) (path : Text) : Except PathFault Node := do
  if !hasNul path && pathLimit ≤ (Utf8.encode path).length then .error .nameTooLong
  else
    match files.node? (← files.resolve anyLength path) with
    | some node => .ok node
    | none => .error .notFound

def read (files : FileSystem) (path : Text) : Except PathFault Bytes := do
  match ← files.lookup path with
  | .file contents => .ok contents
  | .directory => .error .isADirectory
  | .link _ => .error .notFound

def isFile (files : FileSystem) (path : Text) : Bool :=
  match files.lookup path with
  | .ok (.file _) => true
  | _ => false

end FileSystem

end IndexSearch
