import IndexSearch.Files.Tree

/-!
# Laying out files

Building a file system from directories, files and links given by relative paths. A path may lead
through links and dot segments: the directories named on its way are made in the order in which it
names them. The names of the working directory are such as no path can spell, so that nothing
outside of it leads back in.
-/

namespace IndexSearch.FileSystem

/-- The file system with a node put at a path. The working directory stays where it is. -/
def put (files : FileSystem) (path : Path) (node : Node) : FileSystem :=
  if h : path <+: files.workingDir then files
  else ⟨(path, node) :: files.entries, files.workingDir,
    Entries.isChain_cons (path, node) files.workingDir_isChain h⟩

/-- The path of a working directory of its own; written out it takes fifteen bytes. -/
def scratch : Path :=
  [List.replicate 3 '\x00', List.replicate 10 '\x00']

def fresh : FileSystem :=
  ⟨[(scratch, .directory), (scratch.dropLast, .directory)], scratch, by decide⟩

def relativeNames (path : Text) : List Text :=
  (namesOf path).filter fun name => !isHere name

def follow (files : FileSystem) (names : List Text) : Except PathFault Path :=
  files.walk anyLength maxLinks files.workingDir names

/-- The file system with a node under the last of some names, in the directory to which the others
lead. -/
def place (files : FileSystem) (names : List Text) (node : Node) : FileSystem :=
  match names.getLast?, files.follow names.dropLast with
  | some name, .ok directory => files.put (directory ++ [name]) node
  | _, _ => files

/-- The file system with a directory for each beginning of some names that leads to nothing. -/
def makeDirectories (files : FileSystem) (names : List Text) : FileSystem :=
  (List.range names.length).foldl
    (fun files count =>
      let beginning := names.take (count + 1)
      match files.follow beginning with
      | .ok _ => files
      | .error _ => files.place beginning .directory)
    files

def placeAt (files : FileSystem) (path : Text) (node : Node) : FileSystem :=
  let names := relativeNames path
  (files.makeDirectories names.dropLast).place names node

def layOut (directories : List Text) (contents : List (Text × Bytes)) (links : List (Text × Text)) :
    FileSystem :=
  let files := directories.foldl (fun files path => files.makeDirectories (relativeNames path)) fresh
  let files := contents.foldl (fun files entry => files.placeAt entry.1 (.file entry.2)) files
  links.foldl (fun files entry => files.placeAt entry.1 (.link entry.2)) files

def relativeText (files : FileSystem) (path : Path) : Text :=
  ['/'].intercalate (if files.workingDir.isPrefixOf path then path.drop files.workingDir.length
    else path)

end IndexSearch.FileSystem
