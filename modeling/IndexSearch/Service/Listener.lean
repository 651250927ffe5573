import IndexSearch.Fault
import IndexSearch.Url.Address

/-!
# Listening

A listener binds the first address of its family that is free. Interrupted attempts to accept a
client are repeated; any other failure ends the wait.
-/

namespace IndexSearch

inductive Family where
  | v4
  | v6
  | unspecified
deriving DecidableEq, Repr

inductive SocketFault where
  | bind (port : Nat)
  | listen (address : SocketAddress) (cause : StreamFault)
  | notListening
  | accept (cause : StreamFault)
deriving DecidableEq, Repr

def SocketFault.message : SocketFault → Text
  | .bind port =>
    "could not bind any candidate address for port ".toList ++ Numeral.render port
  | .listen address cause =>
    "listen failed on ".toList ++ address.render ++ ": ".toList ++ cause.message
  | .notListening => "socket is not listening".toList
  | .accept cause => "accept failed: ".toList ++ cause.message

inductive ConnectFault where
  | unreachable
deriving DecidableEq, Repr

def ConnectFault.message : ConnectFault → Text
  | .unreachable =>
    ("connect: Os \x7b code: 101, kind: NetworkUnreachable, ".toList
      ++ "message: \"Network is unreachable\" \x7d".toList)

namespace SocketAddress

def withPort (port : Nat) : SocketAddress → SocketAddress
  | .v4 octets _ => .v4 octets port
  | .v6 pieces scope _ => .v6 pieces scope port

def port : SocketAddress → Nat
  | .v4 _ port => port
  | .v6 _ _ port => port

def wildcard4 (port : Nat) : SocketAddress :=
  .v4 [0, 0, 0, 0] port

def wildcard6 (port : Nat) : SocketAddress :=
  .v6 [0, 0, 0, 0, 0, 0, 0, 0] 0 port

end SocketAddress

/-- What a machine offers to listeners: the ports that are taken, the port that is given to a
listener without a wish, and whether clients find their way. -/
structure Network where
  taken : List Nat := []
  sparePort : Nat := 49152
  isReachable : Bool := true
deriving DecidableEq, Repr

namespace Network

/-- Whether an address can be bound; a port of zero stands for the spare one. -/
def isFree (network : Network) (address : SocketAddress) : Bool :=
  address.port == 0 || !network.taken.contains address.port

def assign (network : Network) (address : SocketAddress) : SocketAddress :=
  if address.port = 0 then address.withPort network.sparePort else address

def occupy (network : Network) (address : SocketAddress) : Network :=
  { network with taken := address.port :: network.taken }

def connect (network : Network) : Except ConnectFault Unit :=
  if network.isReachable then .ok () else .error .unreachable

end Network

def unknownHost : Text :=
  "<unknown>".toList

structure Peer where
  clientAddress : Text
  clientPort : Nat
  clientName : Text
  serverAddress : Text
  serverName : Text
deriving DecidableEq, Repr

structure Listener where
  port : Nat
  family : Family
  bound : Option SocketAddress := none
deriving DecidableEq, Repr

namespace Listener

def candidates (listener : Listener) : List SocketAddress :=
  match listener.family with
  | .v4 => [.wildcard4 listener.port]
  | .v6 => [.wildcard6 listener.port]
  | .unspecified => [.wildcard6 listener.port, .wildcard4 listener.port]

def isListening (listener : Listener) : Bool :=
  listener.bound.isSome

/-- Binds the first candidate that is free; an earlier binding is given up. -/
def bind (network : Network) (listener : Listener) : Except SocketFault Listener :=
  match listener.candidates.find? network.isFree with
  | some address => .ok { listener with bound := some (network.assign address) }
  | none => .error (.bind listener.port)

def close (listener : Listener) : Listener :=
  { listener with bound := none }

/-- The first client among the outcomes of repeated attempts, of which interrupted ones do not
count. -/
def firstClient : List (Except StreamFault Peer) → Option (Except SocketFault Peer)
  | [] => none
  | .ok peer :: _ => some (.ok peer)
  | .error .interrupted :: rest => firstClient rest
  | .error .wouldBlock :: rest => firstClient rest
  | .error fault :: _ => some (.error (.accept fault))

/-- Waits for a client, through the outcomes of attempts to accept one. There is no result while
none has come. -/
def accept (listener : Listener) (attempts : List (Except StreamFault Peer)) :
    Option (Except SocketFault Peer) :=
  if listener.isListening then firstClient attempts else some (.error .notListening)

end Listener

/-- A client of the same machine, as a listener sees it that looks up no names. -/
def Peer.loopback (port : Nat) : Peer :=
  let address := Address.dottedText [127, 0, 0, 1]
  ⟨address, port, unknownHost, address, unknownHost⟩

end IndexSearch
