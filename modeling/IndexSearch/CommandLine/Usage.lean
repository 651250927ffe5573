import IndexSearch.Text.Basic

/-!
# Reading arguments

A grammar names the switches of a command and its positional parameters, of which the last takes
all further values. Arguments are read from left to right. The values of a parameter stay pending
until another parameter begins, and only then are they accepted or refused; so an argument that is
refused at sight is refused before a value that precedes it.
-/

namespace IndexSearch

inductive UsageFault where
  | helpWanted
  | helpForNothing
  | unknownCommand
  | unknownArgument
  | missingArgument
  | repeatedArgument
  | surplusValue
  | invalidValue
  | unreadableValue
deriving DecidableEq, Repr

/-- What a switch does: it asks for help, it sets a parameter by itself or by a value. -/
inductive Switch (π : Type) where
  | help
  | flag (parameter : π)
  | valued (parameter : π)
deriving DecidableEq, Repr

/-- The arguments that a command understands: its switches by their long and short names, its
positional parameters, and how the values of a parameter go into a draft of the command. -/
structure Grammar (π δ : Type) where
  long? : Text → Option (Switch π)
  short? : Char → Option (Switch π)
  positionals : List π
  accept : δ → π → List Text → Except UsageFault δ

/-- How far arguments have been read: the draft, the parameter whose values are pending, the
positional parameters still to come, and whether switches are no longer recognised. -/
structure Reading (π δ : Type) where
  draft : δ
  pending : Option (π × List Text)
  positionals : List π
  isTrailing : Bool

namespace Reading

variable {π δ : Type} [DecidableEq π]

omit [DecidableEq π] in
/-- Accepts the pending values; a parameter that has none is refused. -/
def settle (grammar : Grammar π δ) (reading : Reading π δ) :
    Except UsageFault (Reading π δ) :=
  match reading.pending with
  | none => .ok reading
  | some (_, []) => .error .invalidValue
  | some (parameter, values) => do
    let draft ← grammar.accept reading.draft parameter values
    .ok { reading with draft, pending := none }

omit [DecidableEq π] in
def complete (grammar : Grammar π δ) (reading : Reading π δ) (parameter : π)
    (values : List Text) : Except UsageFault (Reading π δ) := do
  let reading ← reading.settle grammar
  let draft ← grammar.accept reading.draft parameter values
  .ok { reading with draft }

omit [DecidableEq π] in
def begin (grammar : Grammar π δ) (reading : Reading π δ) (parameter : π)
    (values : List Text) : Except UsageFault (Reading π δ) := do
  let reading ← reading.settle grammar
  .ok { reading with pending := some (parameter, values) }

omit [DecidableEq π] in
/-- Reads a long switch, to which a value may be attached with an equals sign. -/
def readLong (grammar : Grammar π δ) (reading : Reading π δ) (switch : Text) :
    Except UsageFault (Reading π δ) :=
  let (name, attached) := switch.span (· != '=')
  match grammar.long? name, attached with
  | none, _ => .error .unknownArgument
  | some (.valued parameter), _ :: value => reading.complete grammar parameter [value]
  | some (.valued parameter), [] => reading.begin grammar parameter []
  | some _, _ :: _ => .error .surplusValue
  | some (.flag parameter), [] => reading.complete grammar parameter []
  | some .help, [] => do
    let _ ← reading.settle grammar
    .error .helpWanted

/-- The value attached to a short switch, without the equals sign that may stand before it. -/
def attachedValue : Text → Text
  | '=' :: value => value
  | value => value

omit [DecidableEq π] in
/-- Reads a cluster of short switches, of which the last may have a value attached. -/
def readShort (grammar : Grammar π δ) (reading : Reading π δ) :
    Text → Except UsageFault (Reading π δ)
  | [] => .ok reading
  | name :: rest =>
    match grammar.short? name with
    | none => .error .unknownArgument
    | some .help => do
      let _ ← reading.settle grammar
      .error .helpWanted
    | some (.flag parameter) => do
      (← reading.complete grammar parameter []).readShort grammar rest
    | some (.valued parameter) =>
      if rest.isEmpty then reading.begin grammar parameter []
      else reading.complete grammar parameter [attachedValue rest]

/-- Reads a positional value. The last positional parameter collects its values. -/
def readPositional (grammar : Grammar π δ) (reading : Reading π δ) (value : Text) :
    Except UsageFault (Reading π δ) :=
  match reading.positionals with
  | [] => .error .unknownArgument
  | [last] =>
    match reading.pending with
    | some (parameter, values) =>
      if parameter = last then .ok { reading with pending := some (last, values ++ [value]) }
      else reading.begin grammar last [value]
    | none => reading.begin grammar last [value]
  | parameter :: positionals => do
    let reading ← reading.begin grammar parameter [value]
    .ok { reading with positionals }

/-- Reads what is no switch: the value of a switch that waits for one, or a positional value. -/
def readValue (grammar : Grammar π δ) (reading : Reading π δ) (value : Text) :
    Except UsageFault (Reading π δ) :=
  match reading.pending with
  | some (parameter, []) => .ok { reading with pending := some (parameter, [value]) }
  | _ => reading.readPositional grammar value

/-- Reads one argument. Two hyphens alone end the switches, and one hyphen alone is a value. -/
def read (grammar : Grammar π δ) (reading : Reading π δ) (argument : Text) :
    Except UsageFault (Reading π δ) :=
  if reading.isTrailing then reading.readPositional grammar argument
  else
    match argument with
    | ['-', '-'] => .ok { reading with isTrailing := true }
    | '-' :: '-' :: switch => reading.readLong grammar switch
    | '-' :: name :: rest => reading.readShort grammar (name :: rest)
    | value => reading.readValue grammar value

end Reading

def Grammar.read {π δ : Type} [DecidableEq π] (grammar : Grammar π δ) (blank : δ)
    (arguments : List Text) : Except UsageFault δ := do
  let reading ← arguments.foldlM (Reading.read grammar) ⟨blank, none, grammar.positionals, false⟩
  .ok (← reading.settle grammar).draft

end IndexSearch
