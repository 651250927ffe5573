import IndexSearch.Files.Tree
import IndexSearch.Report
import IndexSearch.Service.Listener
import IndexSearch.Site.Serve

/-!
# Settings

What a server needs to start. Arguments are checked against the file system: the static directory
has to exist, and of the shard files those that are no regular files are left out.
-/

namespace IndexSearch

structure ServeArgs where
  port : Nat
  staticDir : Text
  indices : List Text
  workers : Nat
  family : Family
  crawlRoot : Text
  closePolicy : ClosePolicy
  noReverseDns : Bool
deriving DecidableEq, Repr

structure Settings where
  port : Nat
  family : Family
  reverseDns : Bool
  workers : Nat
  staticRoot : Text
  shards : List Text
  crawlRoot : Text
  closePolicy : ClosePolicy
deriving DecidableEq, Repr

inductive SettingsFault where
  | unreadableRoot (path : Text) (cause : PathFault)
  | rootNotDirectory (path : Text)
  | noWorkers
  | noIndices
deriving DecidableEq, Repr

def SettingsFault.report : SettingsFault → Report
  | .unreadableRoot path cause =>
    ⟨"Cannot read static directory ".toList ++ path, [cause.message]⟩
  | .rootNotDirectory path => ⟨path ++ " is not a directory".toList, []⟩
  | .noWorkers => ⟨"Worker count must be at least 1".toList, []⟩
  | .noIndices => ⟨"No usable index files given".toList, []⟩

namespace Settings

def defaultWorkers : Nat := 100

/-- The directory that the names of local documents begin with where none is given. -/
def defaultCrawlRoot : Text :=
  "./test_tree/".toList

/-- The settings for a static root and shards, with defaults for all else. -/
def ofShards (staticRoot : Text) (shards : List Text) : Settings where
  port := 0
  family := .unspecified
  reverseDns := true
  workers := defaultWorkers
  staticRoot
  shards
  crawlRoot := defaultCrawlRoot
  closePolicy := .dropFinal

def ofArgs (files : FileSystem) (args : ServeArgs) : Except SettingsFault Settings :=
  match files.lookup args.staticDir with
  | .error cause => .error (.unreadableRoot args.staticDir cause)
  | .ok .directory =>
    let shards := args.indices.filter files.isFile
    if args.workers = 0 then .error .noWorkers
    else if shards.isEmpty then .error .noIndices
    else .ok {
      port := args.port
      family := args.family
      reverseDns := !args.noReverseDns
      workers := args.workers
      staticRoot := args.staticDir
      shards
      crawlRoot := args.crawlRoot
      closePolicy := args.closePolicy }
  | .ok _ => .error (.rootNotDirectory args.staticDir)

end Settings

end IndexSearch
