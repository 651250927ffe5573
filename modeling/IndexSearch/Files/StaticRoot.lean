import IndexSearch.Files.Tree

/-!
# Static files

Files under one directory, found by name. A name may contain dot segments and lead through links;
what counts is that the resolved path stays under the root's resolved path. Every path on the way
has to fit in one piece.
-/

namespace IndexSearch

/-- A directory whose files may be read, by its resolved path. -/
structure StaticRoot where
  files : FileSystem
  path : Path
deriving DecidableEq, Repr

namespace StaticRoot

def open? (files : FileSystem) (path : Text) : Except PathFault StaticRoot := do
  .ok ⟨files, ← files.resolve FileSystem.fits path⟩

/-- The resolved path of a name under the root, whose leading slashes do not count. -/
def locate? (root : StaticRoot) (name : Text) : Option Path :=
  if FileSystem.hasNul name then none
  else
    match root.files.walk FileSystem.fits FileSystem.maxLinks root.path
        (FileSystem.namesOf (name.dropWhile (· == '/'))) with
    | .ok path => if root.path.isPrefixOf path then some path else none
    | .error _ => none

/-- The contents of a name, unless it is missing, no regular file or not under the root. -/
def read? (root : StaticRoot) (name : Text) : Option Bytes := do
  match root.files.node? (← root.locate? name) with
  | some (.file contents) => some contents
  | _ => none

end StaticRoot

end IndexSearch
