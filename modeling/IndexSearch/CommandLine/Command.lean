import IndexSearch.CommandLine.Usage
import IndexSearch.Settings

/-!
# Commands

The two commands, one that serves and one that searches from the console, and how they are read
from a command line.
-/

namespace IndexSearch

inductive Command where
  | serve (args : ServeArgs)
  | shell (indices : List Text)
deriving DecidableEq, Repr

namespace Command

def lowestPort : Nat := 1024

/-- A number may carry a plus sign. -/
def number? (value : Text) : Option Nat :=
  match value with
  | '+' :: digits => Numeral.parse? 10 digits
  | digits => Numeral.parse? 10 digits

def port? (value : Text) : Option Nat :=
  (number? value).filter fun port => decide (lowestPort ≤ port ∧ port < UInt16.size)

def workers? (value : Text) : Option Nat :=
  (number? value).filter (· < UInt64.size)

def family? (value : Text) : Option Family :=
  [("v4".toList, Family.v4), ("v6".toList, .v6), ("unspecified".toList, .unspecified)].lookup value

def closePolicy? (value : Text) : Option ClosePolicy :=
  [("drop-final".toList, ClosePolicy.dropFinal),
    ("respond-then-close".toList, .respondThenClose)].lookup value

/-- A path is any text but the empty one. -/
def path? (value : Text) : Option Text :=
  if value.isEmpty then none else some value

def required {α : Type} (fault : UsageFault) : Option α → Except UsageFault α
  | none => .error fault
  | some value => .ok value

inductive ServeParameter where
  | port
  | staticDir
  | indices
  | workers
  | family
  | crawlRoot
  | closePolicy
  | noReverseDns
deriving DecidableEq, Repr

structure ServeDraft where
  port : Option Nat := none
  staticDir : Option Text := none
  indices : List Text := []
  workers : Option Nat := none
  family : Option Family := none
  crawlRoot : Option Text := none
  closePolicy : Option ClosePolicy := none
  noReverseDns : Option Unit := none
deriving DecidableEq, Repr

/-- Sets a field that may be set once; that it is set already is found before its value is read. -/
def setOnce {α : Type} (field : Option α) (reading : Except UsageFault α) :
    Except UsageFault (Option α) :=
  if field.isSome then .error .repeatedArgument else reading.map some

namespace ServeDraft

/-- The draft with a parameter set. All parameters but the last positional one have one value, and
a flag has none. -/
def accept (draft : ServeDraft) (parameter : ServeParameter) (values : List Text) :
    Except UsageFault ServeDraft := do
  let value := values.headD []
  match parameter with
  | .port =>
    .ok { draft with port := ← setOnce draft.port (required .unreadableValue (port? value)) }
  | .staticDir =>
    .ok { draft with staticDir := ← setOnce draft.staticDir (required .invalidValue (path? value)) }
  | .indices =>
    .ok { draft with indices := draft.indices ++ (← required .invalidValue (values.mapM path?)) }
  | .workers =>
    .ok { draft with
      workers := ← setOnce draft.workers (required .unreadableValue (workers? value)) }
  | .family =>
    .ok { draft with family := ← setOnce draft.family (required .invalidValue (family? value)) }
  | .crawlRoot => .ok { draft with crawlRoot := ← setOnce draft.crawlRoot (.ok value) }
  | .closePolicy =>
    .ok { draft with
      closePolicy := ← setOnce draft.closePolicy (required .invalidValue (closePolicy? value)) }
  | .noReverseDns => .ok { draft with noReverseDns := ← setOnce draft.noReverseDns (.ok ()) }

/-- The finished arguments, in which nothing without a default may be missing. -/
def finish (draft : ServeDraft) : Except UsageFault ServeArgs := do
  let port ← required .missingArgument draft.port
  let staticDir ← required .missingArgument draft.staticDir
  if draft.indices.isEmpty then .error .missingArgument
  else .ok {
    port
    staticDir
    indices := draft.indices
    workers := draft.workers.getD Settings.defaultWorkers
    family := draft.family.getD .unspecified
    crawlRoot := draft.crawlRoot.getD Settings.defaultCrawlRoot
    closePolicy := draft.closePolicy.getD .dropFinal
    noReverseDns := draft.noReverseDns.isSome }

end ServeDraft

def serveGrammar : Grammar ServeParameter ServeDraft where
  long? name := [
    ("help".toList, Switch.help),
    ("workers".toList, .valued .workers),
    ("family".toList, .valued .family),
    ("crawl-root".toList, .valued .crawlRoot),
    ("close-policy".toList, .valued .closePolicy),
    ("no-reverse-dns".toList, .flag .noReverseDns)].lookup name
  short? name := [('h', Switch.help), ('w', .valued .workers)].lookup name
  positionals := [.port, .staticDir, .indices]
  accept := ServeDraft.accept

/-- The arguments of the searching command: nothing but index files. -/
def shellGrammar : Grammar Unit (List Text) where
  long? name := [("help".toList, Switch.help)].lookup name
  short? name := [('h', Switch.help)].lookup name
  positionals := [()]
  accept indices _ values := do .ok (indices ++ (← required .invalidValue (values.mapM path?)))

/-- The names by which commands are called, the one that prints help among them. -/
def names : List Text :=
  ["serve".toList, "shell".toList, "help".toList]

/-- The command for help takes the name of a command at most. -/
def helpFault : List Text → UsageFault
  | [] => .helpWanted
  | [name] => if names.contains name then .helpWanted else .unknownCommand
  | _ => .unknownCommand

def refusal : Text → List Text → UsageFault
  | ['-', '-'], [] => .helpForNothing
  | ['-', '-'], name :: _ => if names.contains name then .unknownArgument else .unknownCommand
  | '-' :: '-' :: switch, _ =>
    let (name, attached) := switch.span (· != '=')
    if name ≠ "help".toList then .unknownArgument
    else if attached.isEmpty then .helpWanted
    else .surplusValue
  | '-' :: name :: _, _ => if name = 'h' then .helpWanted else .unknownArgument
  | _, _ => .unknownCommand

def parse : List Text → Except UsageFault Command
  | [] => .error .helpForNothing
  | first :: rest =>
    if first = "serve".toList then do
      .ok (.serve (← (← serveGrammar.read {} rest).finish))
    else if first = "shell".toList then do
      let indices ← shellGrammar.read [] rest
      if indices.isEmpty then .error .missingArgument else .ok (.shell indices)
    else if first = "help".toList then .error (helpFault rest)
    else .error (refusal first rest)

end Command

end IndexSearch
