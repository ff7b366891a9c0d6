import CqlWire.Config.Consistency
import CqlWire.Config.Profile
import CqlWire.Statement

/-!
# Context

What is fixed for the lifetime of a connection: the protocol version, the features of that version,
the codecs and the configuration.  From a context and a statement follow the profile to run with and
the settings that every request carries.
-/

namespace CqlWire

/-- What is fixed for the lifetime of a connection. -/
structure Context where
  version : ProtocolVersion
  features : FeatureTable := FeatureTable.standard
  codecs : CodecRegistry := CodecRegistry.standard
  configuration : Configuration := {}

namespace Context

/-- Whether the protocol version has a feature. -/
def supports (context : Context) (feature : Feature) : Bool :=
  context.features context.version feature

/-- The profile that a statement asks for. -/
def profileOf (context : Context) (statement : Statement) : Except ClientError Profile :=
  match statement.attributes.profile with
  | some name => (context.configuration.profile name).mapError ClientError.config
  | none => .ok context.configuration.default

/-- Fails if a keyspace is set that a request can not carry. -/
def checkKeyspace (context : Context) (keyspace : Option String) : Except ClientError Unit :=
  if keyspace.isSome && !context.supports .requestKeyspace then
    .error (.invalidArgument (.requestKeyspace context.version))
  else
    .ok ()

end Context

/-- The settings of a profile that every request carries. -/
structure RequestSettings where
  consistency : Consistency
  serialConsistency : Consistency
  pageSize : Int32
  deriving DecidableEq, Repr

/-- Reads the settings of a profile: consistency, serial consistency, page size, in this order. -/
def RequestSettings.ofProfile (profile : Profile) : Except ConfigError RequestSettings := do
  let consistency ← Consistency.ofName (← profile.getString .requestConsistency)
  let serialConsistency ← Consistency.ofName (← profile.getString .requestSerialConsistency)
  let pageSize ← profile.getInt .requestPageSize
  return { consistency, serialConsistency, pageSize }

end CqlWire
