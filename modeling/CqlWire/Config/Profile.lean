import CqlWire.Config.Setting
import Std.Data.ExtTreeMap

/-!
# Profiles

A profile is a named set of settings.  A configuration has a default profile and any number of named
ones; a named profile takes the settings that it does not define from the default profile at the
moment when it is added.  The name of the default profile always means the default profile, even
when a profile of that name has been added.
-/

namespace CqlWire

/-- A named set of settings. -/
structure Profile where
  name : String
  /-- The value of each option that the profile defines. -/
  setting? : ConfigOption → Option Setting

namespace Profile

/-- The name that always means the default profile. -/
def defaultName : String := "default"

def empty (name : String) : Profile := ⟨name, fun _ => none⟩

/-- The profile with one option set. -/
def set (profile : Profile) (option : ConfigOption) (value : Setting) : Profile :=
  { profile with
    setting? := fun asked => if asked = option then some value else profile.setting? asked }

def isDefined (profile : Profile) (option : ConfigOption) : Bool :=
  (profile.setting? option).isSome

/-- Reads an option with `select`, which refuses settings of another type than `expected`. -/
def get {α : Type} (profile : Profile) (option : ConfigOption) (expected : SettingType)
    (select : Setting → Option α) : Except ConfigError α :=
  match profile.setting? option with
  | none => .error (.missing option)
  | some value =>
    match select value with
    | some selected => .ok selected
    | none => .error (.wrongType option expected)

/-- Reads an option that has to be a text. -/
def getString (profile : Profile) (option : ConfigOption) : Except ConfigError String :=
  profile.get option .string fun | .string value => some value | _ => none

/-- Reads an option that has to be a number. -/
def getInt (profile : Profile) (option : ConfigOption) : Except ConfigError Int32 :=
  profile.get option .int fun | .int value => some value | _ => none

/-- Reads an option that has to be a time span. -/
def getDuration (profile : Profile) (option : ConfigOption) : Except ConfigError Duration :=
  profile.get option .duration fun | .duration value => some value | _ => none

/-- The profile with the settings that it does not define taken from another one. -/
def inherit (profile base : Profile) : Profile :=
  { profile with setting? := fun option => (profile.setting? option).or (base.setting? option) }

/-- The profile that applies when nothing is configured. -/
def standard : Profile :=
  ((((empty defaultName).set .requestConsistency (.string "LOCAL_ONE")).set
    .requestSerialConsistency (.string "SERIAL")).set
    .requestPageSize (.int 5000)).set
    .requestTimeout (.duration (.ofSeconds 2))

end Profile

/-- All profiles. -/
structure Configuration where
  default : Profile := Profile.standard
  /-- The named profiles with what they inherited. -/
  named : Std.ExtTreeMap String Profile := ∅

namespace Configuration

/-- Adds a profile under its name, in place of one that has the name already. -/
def add (configuration : Configuration) (profile : Profile) : Configuration :=
  { configuration with
    named := configuration.named.insert profile.name (profile.inherit configuration.default) }

/-- The profile of a given name. -/
def profile (configuration : Configuration) (name : String) : Except ConfigError Profile :=
  if name = Profile.defaultName then .ok configuration.default
  else
    match configuration.named[name]? with
    | some profile => .ok profile
    | none => .error (.unknownProfile name)

/-- The names of the default profile and of the named ones, these in order of their characters. -/
def profileNames (configuration : Configuration) : List String :=
  Profile.defaultName :: configuration.named.keys

end Configuration

end CqlWire
