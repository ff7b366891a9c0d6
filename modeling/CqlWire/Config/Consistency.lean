import CqlWire.Config.Setting
import CqlWire.Text.Blank

/-!
# Consistency levels

How many replicas have to take part in a request.  A level has a name, which is read whatever the
case of its letters and the blank characters around it, and a code on the wire.
-/

namespace CqlWire

/-- A consistency level. -/
inductive Consistency where
  | any | one | two | three | quorum | all | localQuorum | eachQuorum | serial | localSerial
  | localOne
  deriving DecidableEq, Repr

namespace Consistency

def name : Consistency → String
  | any => "ANY"
  | one => "ONE"
  | two => "TWO"
  | three => "THREE"
  | quorum => "QUORUM"
  | all => "ALL"
  | localQuorum => "LOCAL_QUORUM"
  | eachQuorum => "EACH_QUORUM"
  | serial => "SERIAL"
  | localSerial => "LOCAL_SERIAL"
  | localOne => "LOCAL_ONE"

def code : Consistency → UInt16
  | any => 0
  | one => 1
  | two => 2
  | three => 3
  | quorum => 4
  | all => 5
  | localQuorum => 6
  | eachQuorum => 7
  | serial => 8
  | localSerial => 9
  | localOne => 10

/-- All levels, by increasing code. -/
def levels : List Consistency :=
  [any, one, two, three, quorum, all, localQuorum, eachQuorum, serial, localSerial, localOne]

/-- Whether a level is meant for the conditional part of a write. -/
def isSerial : Consistency → Bool
  | serial | localSerial => true
  | _ => false

/-- The level of a given name, up to blank characters around it and the case of ASCII letters. -/
def ofName (name : String) : Except ConfigError Consistency :=
  let wanted := (Text.trimmed name).map Char.toUpper
  match levels.find? fun level => level.name.toList = wanted with
  | some level => .ok level
  | none => .error (.unknownConsistencyName name)

def ofCode (code : UInt16) : Except ConfigError Consistency :=
  match levels.find? fun level => level.code = code with
  | some level => .ok level
  | none => .error (.unknownConsistencyCode code)

/-- A level is found under its own code. -/
@[simp] theorem ofCode_code (level : Consistency) : ofCode level.code = .ok level := by
  cases level <;> rfl

instance : ToString Consistency := ⟨name⟩

end Consistency

end CqlWire
