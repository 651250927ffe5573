import IndexSearch.Files.Tree
import IndexSearch.Report
import IndexSearch.Search.Engine
import IndexSearch.Shard.Encoding

/-!
# Loading shards

A shard is loaded from a file as a whole. An engine is opened over a sequence of files, of which
the first that cannot be loaded decides the failure.
-/

namespace IndexSearch

inductive ShardFault where
  | unreadable (path : Text) (cause : ReadFault)
  | malformed (path : Text) (cause : DecodeFault)
  | interrupted (path : Text)
deriving DecidableEq, Repr

namespace ShardFault

def report : ShardFault → Report
  | .unreadable path cause =>
    ⟨"failed to read shard '".toList ++ path ++ "': ".toList ++ cause.message, [cause.message]⟩
  | .malformed path cause =>
    ⟨"failed to decode shard '".toList ++ path ++ "': ".toList ++ cause.message, [cause.message]⟩
  | .interrupted path =>
    ⟨"shard load task for '".toList ++ path ++ "' did not complete".toList, []⟩

def message (fault : ShardFault) : Text :=
  fault.report.message

end ShardFault

def Shard.load (files : FileSystem) (path : Text) : Except ShardFault Shard :=
  match files.read path with
  | .error cause => .error (.unreadable path (.path cause))
  | .ok bytes =>
    match ShardFormat.decode bytes with
    | .error cause => .error (.malformed path cause)
    | .ok shard => .ok shard

inductive EngineFault where
  | shard (fault : ShardFault)
  | breach (breach : Breach)
deriving DecidableEq, Repr

def EngineFault.report : EngineFault → Report
  | .shard fault => fault.report
  | .breach cause => ⟨cause.message, []⟩

/-- The engine over the shards in a sequence of files, which may not be empty. -/
def Engine.load (files : FileSystem) (paths : List Text) : Except EngineFault Engine := do
  if paths.isEmpty then .error (.breach .noShards)
  else
    let shards ← (paths.mapM (Shard.load files)).mapError .shard
    (Engine.ofReaders (shards.map Reader.ofShard)).mapError .breach

end IndexSearch
