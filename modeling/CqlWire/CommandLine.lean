import CqlWire.Diagnostic
import CqlWire.Request.Estimate
import CqlWire.Session

/-!
# The command line

Shows the request frame in which a simple statement is sent.  The arguments name the query and what
goes with it; values that read as 64-bit integers are sent as numbers, all others as text.

Unusable arguments are told apart from a request that can not be made: `CommandLine.run` gives one
of three outcomes, and each has its own exit code.
-/

namespace CqlWire.CommandLine

/-! ### Arguments -/

/-- What an argument can set. -/
inductive Switch where
  | consistency
  | version
  | value
  | keyspace
  | pageSize
  | stream
  deriving DecidableEq, Repr

/-- The switch of a given long name. -/
def Switch.ofName? : String → Option Switch
  | "consistency" => some consistency
  | "protocol-version" => some version
  | "value" => some value
  | "keyspace" => some keyspace
  | "page-size" => some pageSize
  | "stream-id" => some stream
  | _ => none

/-- The switch of a given letter. -/
def Switch.ofLetter? : Char → Option Switch
  | 'c' => some consistency
  | 'p' => some version
  | 'v' => some value
  | 'k' => some keyspace
  | _ => none

/-- An argument after it has been told what it is. -/
inductive Argument where
  | switch (name : Switch) (value : String)
  | query (text : String)
  deriving DecidableEq, Repr

/-- Tells what the arguments are.  The value of a switch follows an equals sign, or is the next
argument; all arguments after `--` are no switches.  There is no answer if a switch is not known or
has no value. -/
def recognise : List String → Option (List Argument)
  | [] => some []
  | text :: rest =>
    match text.toList with
    | ['-', '-'] => some (rest.map .query)
    | '-' :: '-' :: name =>
      match name.span (· ≠ '=') with
      | (name, '=' :: value) => do
        let switch ← Switch.ofName? (String.ofList name)
        return .switch switch (String.ofList value) :: (← recognise rest)
      | (name, _) => withNext (Switch.ofName? (String.ofList name)) rest
    | ['-'] => do return .query text :: (← recognise rest)
    | ['-', letter] => withNext (Switch.ofLetter? letter) rest
    | '-' :: letter :: value => do
      let switch ← Switch.ofLetter? letter
      let value := if value.head? = some '=' then value.tail else value
      return .switch switch (String.ofList value) :: (← recognise rest)
    | _ => do return .query text :: (← recognise rest)
where
  /-- Takes the next argument as the value of a switch; it must not look like a switch itself. -/
  withNext (switch : Option Switch) : List String → Option (List Argument)
    | [] => none
    | value :: rest => do
      if value.startsWith "-" && value ≠ "-" then none
      return .switch (← switch) value :: (← recognise rest)

/-- The values given to a switch, in order. -/
def valuesOf (switch : Switch) (arguments : List Argument) : List String :=
  arguments.filterMap fun
    | .switch name value => if name = switch then some value else none
    | .query _ => none

/-- The queries among the arguments, in order. -/
def queriesOf (arguments : List Argument) : List String :=
  arguments.filterMap fun
    | .query text => some text
    | .switch _ _ => none

/-- Reads the value of a switch that may be given once. -/
def readOnce {α : Type} (arguments : List Argument) (switch : Switch) (default : α)
    (read : String → Option α) : Option α :=
  match valuesOf switch arguments with
  | [] => some default
  | [value] => read value
  | _ => none

/-- What the arguments say. -/
structure Arguments where
  query : String
  consistency : String := "LOCAL_ONE"
  version : ProtocolVersion := .v4
  /-- Positional values. -/
  values : List String := []
  keyspace : Option String := none
  pageSize : Int32 := 5000
  stream : Int16 := 0

/-- Reads the arguments; there is no answer if they are unusable. -/
def Arguments.parse? (texts : List String) : Option Arguments := do
  let arguments ← recognise texts
  let [query] := queriesOf arguments | none
  return {
    query
    consistency := ← readOnce arguments .consistency "LOCAL_ONE" some
    version := ← readOnce arguments .version .v4 fun text => (ProtocolVersion.parse text).toOption
    values := valuesOf .value arguments
    keyspace := ← readOnce arguments .keyspace none (some ∘ some)
    pageSize := ← readOnce arguments .pageSize 5000 fun text =>
      (Text.readSigned? 32 text).map Int32.ofInt
    stream := ← readOnce arguments .stream 0 fun text =>
      (Text.readSigned? 16 text).map Int16.ofInt }

/-! ### The frame -/

/-- A value as it is sent: a 64-bit integer if it reads as one, else text. -/
def readValue (text : String) : Value :=
  match Text.readSigned? 64 text with
  | some n => .bigint (Int64.ofInt n)
  | none => .text text

/-- The statement that the arguments describe. -/
def Arguments.statement (arguments : Arguments) : Statement :=
  .simple {
    query := arguments.query
    positional := arguments.values.map readValue
    attributes := { keyspace := arguments.keyspace } }

/-- The profile to run with: the usual one, with consistency and page size from the arguments. -/
def Arguments.profile (arguments : Arguments) : Profile :=
  (Profile.standard.set .requestConsistency (.string arguments.consistency)).set
    .requestPageSize (.int arguments.pageSize)

/-- The session in which the request is made, while the clock shows `now`. -/
def Arguments.session (arguments : Arguments) (now : Timestamp) : Session :=
  { context := {
      version := arguments.version
      configuration := { default := arguments.profile } }
    timestamps := .monotonic fun _ => now }

/-- What is shown for the arguments: the frame, and two lines about its size. -/
def Arguments.describe (arguments : Arguments) (now : Timestamp) :
    Except Text.Outline (Bytes × List String) := do
  let session := arguments.session now
  let statement := arguments.statement
  let request ← (session.makeRequest arguments.profile statement).1.mapError ClientError.outline
  let frame := { session.frame statement request with stream := arguments.stream }
  let bytes ← (frame.encode session.context.features).mapError FrameError.outline
  let values ← (statement.sizeOfValues session.context).mapError ClientError.outline
  let estimate := statement.minimumRequestSize session.context + values
  return (bytes, [s!"frame size: {bytes.length} bytes", s!"size estimate: {estimate} bytes"])

/-! ### Outcomes -/

/-- What a run of the program comes to. -/
inductive Outcome where
  /-- The frame, and the lines shown after it. -/
  | shown (frame : Bytes) (lines : List String)
  /-- The request can not be made. -/
  | failed (diagnostic : String)
  /-- The arguments are unusable. -/
  | unusable
  deriving DecidableEq, Repr

/-- The exit code of an outcome. -/
def Outcome.exitCode : Outcome → UInt32
  | shown _ _ => 0
  | failed _ => 1
  | unusable => 2

/-- Runs the program on its arguments, while the clock shows `now`. -/
def run (texts : List String) (now : Timestamp) : Outcome :=
  match Arguments.parse? texts with
  | none => .unusable
  | some arguments =>
    match arguments.describe now with
    | .ok (frame, lines) => .shown frame lines
    | .error outline => .failed ("Error: " ++ outline.render)

end CqlWire.CommandLine
