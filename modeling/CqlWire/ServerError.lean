import CqlWire.Config.Consistency
import CqlWire.Network.Node
import CqlWire.ServerError.Kind
import CqlWire.ServerError.WriteType
import CqlWire.Text.Outline

/-!
# Errors reported by a coordinator

An ERROR answer has a code, a message and details that depend on the code.  `ErrorAnswer.classify`
sorts it by its code, so that nothing of the raw answer is needed afterwards.  An unknown code, or
details that do not fit the code, give a protocol error that keeps the code and says what is wrong.
-/

namespace CqlWire

/-- Error codes of single replicas, by address. -/
abbrev ReasonMap := Std.ExtTreeMap IpAddress UInt16

/-- The fields of an ERROR answer that depend on its code. -/
inductive ErrorDetails where
  | none
  | unavailable (consistency : UInt16) (required alive : Int32)
  | writeTimeout (consistency : UInt16) (received blockFor : Int32) (writeType : String)
  | readTimeout (consistency : UInt16) (received blockFor : Int32) (dataPresent : Bool)
  | readFailure (consistency : UInt16) (received blockFor numFailures : Int32)
      (reasons : ReasonMap) (dataPresent : Bool)
  | writeFailure (consistency : UInt16) (received blockFor numFailures : Int32)
      (reasons : ReasonMap) (writeType : String)
  | alreadyExists (keyspace table : String)
  | unprepared (id : Bytes)

/-- An ERROR answer. -/
structure ErrorAnswer where
  code : Int32
  message : String
  details : ErrorDetails := .none

/-- What a coordinator reports, by the kind of error. -/
inductive CoordinatorFailure where
  | serverError (message : String)
  /-- Also for codes that are not known, and for details that do not fit their code. -/
  | protocolError (code : Int32) (message : String)
  | unavailable (consistency : Consistency) (required alive : Int32)
  | overloaded
  | bootstrapping
  | truncate (message : String)
  | writeTimeout (consistency : Consistency) (received blockFor : Int32) (writeType : WriteType)
  | readTimeout (consistency : Consistency) (received blockFor : Int32) (dataPresent : Bool)
  | readFailure (consistency : Consistency) (received blockFor numFailures : Int32)
      (dataPresent : Bool) (reasons : ReasonMap)
  | functionFailure (message : String)
  | writeFailure (consistency : Consistency) (received blockFor : Int32) (writeType : WriteType)
      (numFailures : Int32) (reasons : ReasonMap)
  | syntaxError (message : String)
  | unauthorized (message : String)
  | invalidQuery (message : String)
  | invalidConfiguration (message : String)
  | alreadyExists (keyspace table : String)

/-- An error reported by the coordinator of a request. -/
structure CoordinatorError where
  /-- The node that reported it. -/
  node : Node
  failure : CoordinatorFailure

/-! ### Written forms -/

namespace ErrorDetails

def outlineReasons (reasons : ReasonMap) : Text.Outline :=
  .map (reasons.toList.map fun (address, code) => (address.render, toString code.toNat))

def outlineCode (code : UInt16) : Text.Outline := .number code.toNat

def outlineInt (n : Int32) : Text.Outline := .number n.toInt

def outline : ErrorDetails → Text.Outline
  | none => .tuple "None" []
  | unavailable consistency required alive =>
    .record "Unavailable" [
      ("consistency", outlineCode consistency),
      ("required", outlineInt required),
      ("alive", outlineInt alive)]
  | writeTimeout consistency received blockFor writeType =>
    .record "WriteTimeout" [
      ("consistency", outlineCode consistency),
      ("received", outlineInt received),
      ("block_for", outlineInt blockFor),
      ("write_type", .text writeType)]
  | readTimeout consistency received blockFor dataPresent =>
    .record "ReadTimeout" [
      ("consistency", outlineCode consistency),
      ("received", outlineInt received),
      ("block_for", outlineInt blockFor),
      ("data_present", .truth dataPresent)]
  | readFailure consistency received blockFor numFailures reasons dataPresent =>
    .record "ReadFailure" [
      ("consistency", outlineCode consistency),
      ("received", outlineInt received),
      ("block_for", outlineInt blockFor),
      ("num_failures", outlineInt numFailures),
      ("reason_map", outlineReasons reasons),
      ("data_present", .truth dataPresent)]
  | writeFailure consistency received blockFor numFailures reasons writeType =>
    .record "WriteFailure" [
      ("consistency", outlineCode consistency),
      ("received", outlineInt received),
      ("block_for", outlineInt blockFor),
      ("num_failures", outlineInt numFailures),
      ("reason_map", outlineReasons reasons),
      ("write_type", .text writeType)]
  | alreadyExists keyspace table =>
    .record "AlreadyExists" [("keyspace", .text keyspace), ("table", .text table)]
  | unprepared id => .record "Unprepared" [("id", .bytes id)]

end ErrorDetails

namespace CoordinatorFailure

/-- The code from which a failure was made. -/
def code : CoordinatorFailure → Int32
  | serverError _ => ErrorKind.server.code
  | protocolError code _ => code
  | unavailable .. => ErrorKind.unavailable.code
  | overloaded => ErrorKind.overloaded.code
  | bootstrapping => ErrorKind.bootstrapping.code
  | truncate _ => ErrorKind.truncate.code
  | writeTimeout .. => ErrorKind.writeTimeout.code
  | readTimeout .. => ErrorKind.readTimeout.code
  | readFailure .. => ErrorKind.readFailure.code
  | functionFailure _ => ErrorKind.functionFailure.code
  | writeFailure .. => ErrorKind.writeFailure.code
  | syntaxError _ => ErrorKind.syntaxError.code
  | unauthorized _ => ErrorKind.unauthorized.code
  | invalidQuery _ => ErrorKind.invalidQuery.code
  | invalidConfiguration _ => ErrorKind.invalidConfiguration.code
  | alreadyExists .. => ErrorKind.alreadyExists.code

def message : CoordinatorFailure → String
  | serverError message => s!"server error: {message}"
  | protocolError _ message => s!"protocol error: {message}"
  | unavailable consistency required alive =>
    s!"not enough replicas available for query at consistency {consistency} " ++
      s!"({required.toInt} required but only {alive.toInt} alive)"
  | overloaded => "coordinator is overloaded"
  | bootstrapping => "coordinator is bootstrapping"
  | truncate message => s!"truncate failed: {message}"
  | writeTimeout consistency received blockFor writeType =>
    s!"timeout during {writeType} write at consistency {consistency} " ++
      s!"({blockFor.toInt} replicas were required but only {received.toInt} acknowledged the write)"
  | readTimeout consistency received blockFor _ =>
    s!"timeout during read at consistency {consistency} " ++
      s!"({blockFor.toInt} responses were required but only {received.toInt} replicas responded)"
  | readFailure consistency received blockFor numFailures _ _ =>
    s!"read failed at consistency {consistency} ({blockFor.toInt} responses were required " ++
      s!"but only {received.toInt} replicas responded, {numFailures.toInt} failed)"
  | functionFailure message => s!"function failure: {message}"
  | writeFailure consistency received blockFor writeType numFailures _ =>
    s!"{writeType} write failed at consistency {consistency} " ++
      s!"({blockFor.toInt} responses were required " ++
      s!"but only {received.toInt} replicas responded, {numFailures.toInt} failed)"
  | syntaxError message => s!"syntax error: {message}"
  | unauthorized message => s!"unauthorized: {message}"
  | invalidQuery message => s!"invalid query: {message}"
  | invalidConfiguration message => s!"invalid configuration in query: {message}"
  | alreadyExists keyspace table =>
    if table.isEmpty then s!"keyspace {keyspace} already exists"
    else s!"object {keyspace}.{table} already exists"

end CoordinatorFailure

namespace CoordinatorError

/-- The code from which an error was made. -/
def code (error : CoordinatorError) : Int32 := error.failure.code

/-- The wording of an error: the node between brackets, then the failure. -/
def message (error : CoordinatorError) : String :=
  s!"[{error.node}] {error.failure.message}"

end CoordinatorError

/-! ### Classification -/

/-- Why the details of an ERROR answer do not fit its code. -/
inductive DetailsFault where
  /-- Details of another shape; `expected` is the name of the right one. -/
  | unexpected (expected : String) (details : ErrorDetails)
  /-- A consistency code that is not known. -/
  | consistency (error : ConfigError)

def DetailsFault.message : DetailsFault → String
  | unexpected expected details => s!"expected {expected} details, got {details.outline.render}"
  | consistency error => error.message

namespace ErrorAnswer

/-- The level of a consistency code in details. -/
def readConsistency (code : UInt16) : Except DetailsFault Consistency :=
  (Consistency.ofCode code).mapError .consistency

/-- The failure that a code of known kind stands for, or what is wrong with its details. -/
def failureOf (message : String) (details : ErrorDetails) :
    ErrorKind → Except DetailsFault (Option CoordinatorFailure)
  | .server => .ok (some (.serverError message))
  | .protocol => .ok (some (.protocolError ErrorKind.protocol.code message))
  | .authentication =>
    .ok (some (.protocolError ErrorKind.authentication.code
      s!"Unexpected authentication error ({message})"))
  | .unavailable =>
    match details with
    | .unavailable consistency required alive => do
      return some (.unavailable (← readConsistency consistency) required alive)
    | _ => .error (.unexpected "unavailable" details)
  | .overloaded => .ok (some .overloaded)
  | .bootstrapping => .ok (some .bootstrapping)
  | .truncate => .ok (some (.truncate message))
  | .writeTimeout =>
    match details with
    | .writeTimeout consistency received blockFor writeType => do
      return some (.writeTimeout (← readConsistency consistency) received blockFor
        (.ofName writeType))
    | _ => .error (.unexpected "write timeout" details)
  | .readTimeout =>
    match details with
    | .readTimeout consistency received blockFor dataPresent => do
      return some (.readTimeout (← readConsistency consistency) received blockFor dataPresent)
    | _ => .error (.unexpected "read timeout" details)
  | .readFailure =>
    match details with
    | .readFailure consistency received blockFor numFailures reasons dataPresent => do
      return some (.readFailure (← readConsistency consistency) received blockFor numFailures
        dataPresent reasons)
    | _ => .error (.unexpected "read failure" details)
  | .functionFailure => .ok (some (.functionFailure message))
  | .writeFailure =>
    match details with
    | .writeFailure consistency received blockFor numFailures reasons writeType => do
      return some (.writeFailure (← readConsistency consistency) received blockFor
        (.ofName writeType) numFailures reasons)
    | _ => .error (.unexpected "write failure" details)
  | .syntaxError => .ok (some (.syntaxError message))
  | .unauthorized => .ok (some (.unauthorized message))
  | .invalidQuery => .ok (some (.invalidQuery message))
  | .invalidConfiguration => .ok (some (.invalidConfiguration message))
  | .alreadyExists =>
    match details with
    | .alreadyExists keyspace table => .ok (some (.alreadyExists keyspace table))
    | _ => .error (.unexpected "already exists" details)
  | .unprepared => .ok none

/-- The failure that an ERROR answer stands for.  There is none if the answer asks to prepare the
statement again, which is no failure. -/
def failure? (error : ErrorAnswer) : Option CoordinatorFailure :=
  match ErrorKind.ofCode? error.code with
  | none =>
    some (.protocolError error.code s!"Unknown error code: {error.code.toInt} ({error.message})")
  | some kind =>
    match failureOf error.message error.details kind with
    | .ok failure => failure
    | .error fault =>
      some (.protocolError error.code
        ("Malformed error response (code 0x" ++
          Text.hexadecimal 4 error.code.toUInt32.toNat ++ s!"): {fault.message}"))

/-- Classifies an ERROR answer of a node. -/
def classify (node : Node) (error : ErrorAnswer) : Option CoordinatorError :=
  error.failure?.map fun failure => { node, failure }

end ErrorAnswer

end CqlWire
