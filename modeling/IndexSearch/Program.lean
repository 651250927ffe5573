import IndexSearch.CommandLine.Command
import IndexSearch.Console
import IndexSearch.Files.CommonTypes
import IndexSearch.Service.Server
import IndexSearch.Shard.Load

/-!
# The program

What a command line leads to, given the file system, the network and the standard input.
-/

namespace IndexSearch

inductive Outcome where
  | refused (fault : UsageFault)
  | ended (output : Bytes)
  | failed (output : Bytes) (report : Report)
  | serving (server : Server)

namespace Program

/-- The context in which a shard that cannot be loaded is reported. -/
def loadingContext : Text :=
  "Failed to open index shards".toList

def loadEngine (files : FileSystem) (paths : List Text) : Except Report Engine :=
  (Engine.load files paths).mapError fun fault => fault.report.within loadingContext

def serve [MediaType] (files : FileSystem) (network : Network) (args : ServeArgs) :
    Except Report Server := do
  let settings ← (Settings.ofArgs files args).mapError SettingsFault.report
  let engine ← loadEngine files settings.shards
  (Server.bind files network settings engine).mapError ServerFault.report

def shell (files : FileSystem) (indices : List Text) (input : Bytes) : Outcome :=
  match loadEngine files indices with
  | .error report => .failed [] report
  | .ok engine =>
    let session := Console.run engine input none
    match session.outcome with
    | .ok _ => .ended session.output
    | .error fault => .failed session.output ⟨fault.message, []⟩

def run [MediaType] (files : FileSystem) (network : Network) (arguments : List Text)
    (input : Bytes) : Outcome :=
  match Command.parse arguments with
  | .error fault => .refused fault
  | .ok (.shell indices) => shell files indices input
  | .ok (.serve args) =>
    match serve files network args with
    | .error report => .failed [] report
    | .ok server => .serving server

/-- The media types that the program is run with. -/
instance mediaType : MediaType :=
  .byExtension

end Program

end IndexSearch
