import IndexSearch.Settings

/-!
# Servers

A server is a site behind a listener. Every client gets what serving its stream writes, no matter
which worker it falls to.
-/

namespace IndexSearch

structure Server where
  site : Site
  closePolicy : ClosePolicy
  workers : Nat
  listener : Listener

inductive ServerFault where
  | staticRoot (path : Text) (cause : PathFault)
  | listener (cause : SocketFault)
deriving DecidableEq, Repr

def ServerFault.report : ServerFault → Report
  | .staticRoot path cause => ⟨"Cannot open static root ".toList ++ path, [cause.message]⟩
  | .listener cause => ⟨"Couldn't bind to the listening socket".toList, [cause.message]⟩

namespace Server

/-- The server for settings and an engine: the static root is opened first, then the listener is
bound. -/
def bind [MediaType] (files : FileSystem) (network : Network) (settings : Settings)
    (engine : Engine) : Except ServerFault Server :=
  match StaticRoot.open? files settings.staticRoot with
  | .error cause => .error (.staticRoot settings.staticRoot cause)
  | .ok root =>
    match Listener.bind network ⟨settings.port, settings.family, none⟩ with
    | .error cause => .error (.listener cause)
    | .ok listener =>
      .ok ⟨⟨root, engine, settings.crawlRoot⟩, settings.closePolicy, settings.workers, listener⟩

/-- What a client receives that sends some bytes and then closes its side. -/
def reply (server : Server) (sent : Bytes) : Bytes :=
  (server.site.serve server.closePolicy ⟨{ incoming := [.bytes sent] }, []⟩).stream.written

def replies (network : Network) (server : Server) (clients : List Bytes) :
    Except ConnectFault (List Bytes) :=
  clients.mapM fun sent => do
    network.connect
    .ok (server.reply sent)

end Server

end IndexSearch
