import CqlWire.Text.Numeral

/-!
# Settings

The options that a configuration may define, the values they may have, and what can go wrong when
one is read.
-/

namespace CqlWire

/-- An option of the configuration. -/
inductive ConfigOption where
  | requestConsistency
  | requestSerialConsistency
  | requestPageSize
  | requestTimeout
  | protocolVersion
  deriving DecidableEq, Repr

namespace ConfigOption

/-- The path by which an option is named. -/
def path : ConfigOption → String
  | requestConsistency => "basic.request.consistency"
  | requestSerialConsistency => "basic.request.serial-consistency"
  | requestPageSize => "basic.request.page-size"
  | requestTimeout => "basic.request.timeout"
  | protocolVersion => "advanced.protocol.version"

def all : List ConfigOption :=
  [requestConsistency, requestSerialConsistency, requestPageSize, requestTimeout, protocolVersion]

def ofPath? (path : String) : Option ConfigOption :=
  all.find? fun option => option.path = path

/-- An option is found under its own path. -/
@[simp] theorem ofPath?_path (option : ConfigOption) : ofPath? option.path = some option := by
  cases option <;> decide +kernel

end ConfigOption

/-- A time span: whole seconds, and the nanoseconds beyond them. -/
structure Duration where
  seconds : UInt64
  nanoseconds : Fin 1000000000
  deriving DecidableEq, Repr

def Duration.ofSeconds (seconds : UInt64) : Duration := ⟨seconds, 0⟩

/-- The value of an option. -/
inductive Setting where
  | string (value : String)
  | int (value : Int32)
  | duration (value : Duration)
  deriving DecidableEq, Repr

/-- The types of settings. -/
inductive SettingType where
  | string
  | int
  | duration
  deriving DecidableEq, Repr

def SettingType.name : SettingType → String
  | string => "string"
  | int => "int"
  | duration => "duration"

/-- What can go wrong when the configuration is read. -/
inductive ConfigError where
  /-- The option is defined nowhere. -/
  | missing (option : ConfigOption)
  /-- The option has a value of another type. -/
  | wrongType (option : ConfigOption) (expected : SettingType)
  /-- There is no profile of this name. -/
  | unknownProfile (name : String)
  /-- There is no consistency level of this name. -/
  | unknownConsistencyName (name : String)
  /-- There is no consistency level with this code. -/
  | unknownConsistencyCode (code : UInt16)
  deriving DecidableEq, Repr

def ConfigError.message : ConfigError → String
  | missing option => s!"missing configuration option '{option.path}'"
  | wrongType option expected =>
    s!"configuration option '{option.path}' should be of type {expected.name}"
  | unknownProfile name => s!"unknown profile '{name}'"
  | unknownConsistencyName name => s!"unknown consistency level '{name}'"
  | unknownConsistencyCode code =>
    "unknown consistency level code 0x" ++ Text.hexadecimal 4 code.toNat

end CqlWire
