import IndexSearch.CommandLine.Help
import IndexSearch.Program

/-!
# The executable

The outer layer of the program: it takes a snapshot of the files that a command line names, lets
the library decide what is to be done, and moves bytes. A console session is answered line by line
as its input comes in. The server answers the client on standard input and output, to be run by a
super-server that listens for it.
-/

namespace IndexSearch.Main

def realPath? (path : String) : IO (Option String) := do
  try
    let path ← IO.FS.realPath path
    return some path.toString
  catch _ => return none

def namesOf (path : String) : Path :=
  (FileSystem.namesOf path.toList).filter fun name => !name.isEmpty

def directoriesAbove (path : Path) : Entries :=
  (List.range path.length).map fun count => (path.take count, .directory)

/-- What stands at a resolved path; nothing if it is a file that cannot be read. -/
def nodeAt (path : String) : IO Entries := do
  let entry : IO.FS.DirEntry := { root := path, fileName := "." }
  if ← entry.root.isDir then return [(namesOf path, .directory)]
  try
    let contents ← IO.FS.readBinFile path
    return [(namesOf path, .file contents.toList)]
  catch _ => return []

/-- The nodes that are met on the way from a resolved directory along names. -/
def nodesAlong (place : String) : List String → IO Entries
  | [] => return []
  | name :: rest => do
    let path := if name.isEmpty then place else place ++ "/" ++ name
    match ← realPath? path with
    | none => return []
    | some real =>
      let nodes := directoriesAbove (namesOf real) ++ (← nodeAt real)
      let isPlain := FileSystem.isHere name.toList || name == ".." || namesOf real == namesOf path
      let link := if isPlain then [] else [(namesOf path, Node.link real.toList)]
      return nodes ++ link ++ (← nodesAlong real rest)

def nodesOf (workingDir path : String) : IO Entries :=
  nodesAlong (if path.startsWith "/" then "/" else workingDir)
    ((FileSystem.namesOf path.toList).map String.ofList)

/-- All nodes below a directory. -/
partial def nodesBelow (directory : String) : IO Entries := do
  match ← realPath? directory with
  | none => return []
  | some place =>
    let entry : IO.FS.DirEntry := { root := place, fileName := "." }
    if !(← entry.root.isDir) then return []
    let mut nodes := []
    for child in ← entry.root.readDir do
      nodes := nodes ++ (← nodesAlong place [child.fileName])
      let path := child.path.toString
      if (← realPath? path) == some path then nodes := nodes ++ (← nodesBelow path)
    return nodes

def snapshot (arguments : List Text) : IO FileSystem := do
  let workingDir := (← IO.currentDir).toString
  let (paths, directories) :=
    match Command.parse arguments with
    | .ok (.serve args) => (args.staticDir :: args.indices, [args.staticDir])
    | .ok (.shell indices) => (indices, [])
    | .error _ => ([], [])
  let along ← paths.mapM fun path => nodesOf workingDir (String.ofList path)
  let below ← directories.mapM fun path => nodesBelow (String.ofList path)
  let own := directoriesAbove (namesOf workingDir) ++ [(namesOf workingDir, .directory)]
  return .ofEntries (own ++ along.flatten ++ below.flatten) (namesOf workingDir)

def writeBytes (output : IO.FS.Stream) (bytes : Bytes) : IO Unit := do
  output.write (ByteArray.mk bytes.toArray)
  output.flush

def readBytes (input : IO.FS.Stream) : IO Bytes := do
  return (← input.read (USize.ofNat Connection.readSize)).toList

/-- Reads until a line is complete or the input ends. The result is the line and what is left. -/
partial def readLine (input : IO.FS.Stream) (held : Bytes) : IO (Option (Bytes × Bytes)) := do
  match held.span (· != 10) with
  | (line, _ :: rest) => return some (Console.stripReturn line, rest)
  | (line, []) =>
    let more ← readBytes input
    if !more.isEmpty then readLine input (held ++ more)
    else if line.isEmpty then return none
    else return some (line, [])

/-- Prompts for lines and answers them until the input ends or a line is refused. -/
partial def converse (engine : Engine) (input output : IO.FS.Stream) (held : Bytes) :
    IO (Except ConsoleFault Unit) := do
  writeBytes output (Utf8.encode Console.prompt.flatten)
  match ← readLine input held with
  | none => return .ok ()
  | some (line, rest) =>
    match Console.respond engine line with
    | .error fault => return .error fault
    | .ok reply =>
      writeBytes output (Utf8.encode reply.flatten)
      converse engine input output rest

/-- Answers the requests of one client until either side ends the connection. -/
partial def answerClient (server : Server) (input output : IO.FS.Stream) (held : Bytes) :
    IO Unit := do
  match cutHead? held 0 with
  | none =>
    let more ← readBytes input
    if !more.isEmpty then answerClient server input output (held ++ more)
  | some (head, rest) =>
    let request := Request.parse (Utf8.decodeLossy head)
    if !(request.wantsClose && server.closePolicy == .dropFinal) then
      writeBytes output (server.site.answer request).render
      if !request.wantsClose then answerClient server input output rest

def report (report : Report) : IO UInt32 := do
  writeBytes (← IO.getStderr) (Utf8.encode report.block)
  return 1

def run (arguments : List Text) : IO UInt32 := do
  let files ← snapshot arguments
  match Command.parse arguments with
  | .error fault =>
    let output ← if fault = .helpWanted then IO.getStdout else IO.getStderr
    writeBytes output (Utf8.encode fault.message)
    return if fault = .helpWanted then 0 else 2
  | .ok (.serve args) =>
    match Program.serve files {} args with
    | .error fault => report fault
    | .ok server =>
      answerClient server (← IO.getStdin) (← IO.getStdout) []
      return 0
  | .ok (.shell indices) =>
    match Program.loadEngine files indices with
    | .error fault => report fault
    | .ok engine =>
      match ← converse engine (← IO.getStdin) (← IO.getStdout) [] with
      | .ok _ => return 0
      | .error fault => report ⟨fault.message, []⟩

end IndexSearch.Main

def main (arguments : List String) : IO UInt32 :=
  IndexSearch.Main.run (arguments.map String.toList)
