import CqlWire.Text.Blank
import CqlWire.Text.Numeral

/-!
# Protocol versions and features

The versions of the native protocol that are spoken, the reading of a version from text, and the
capabilities that only some versions have.  Which version has which capability is a table that a
context may replace (`FeatureTable`); `FeatureTable.standard` is the usual one.
-/

namespace CqlWire

/-- A version of the native protocol. -/
inductive ProtocolVersion where
  | v3
  | v4
  | v5
  deriving DecidableEq, Repr

/-- A text or number that names no known version. -/
structure UnsupportedVersion where
  /-- What was given, unchanged. -/
  given : String
  deriving DecidableEq, Repr

def UnsupportedVersion.message (error : UnsupportedVersion) : String :=
  s!"unsupported protocol version '{error.given}'"

namespace ProtocolVersion

def number : ProtocolVersion → Nat
  | v3 => 3
  | v4 => 4
  | v5 => 5

def ofNumber? : Nat → Option ProtocolVersion
  | 3 => some v3
  | 4 => some v4
  | 5 => some v5
  | _ => none

/-- A version is found under its own number. -/
@[simp] theorem ofNumber?_number (version : ProtocolVersion) :
    ofNumber? version.number = some version := by
  cases version <;> rfl

/-- Only the version itself is found under its number. -/
theorem eq_number_of_ofNumber? {n : Nat} {version : ProtocolVersion}
    (h : ofNumber? n = some version) : n = version.number := by
  unfold ofNumber? at h
  split at h <;> simp_all [number] <;> subst h <;> rfl

/-- The version with a given number, or an error that names the number. -/
def ofNumber (n : Nat) : Except UnsupportedVersion ProtocolVersion :=
  match ofNumber? n with
  | some version => .ok version
  | none => .error ⟨toString n⟩

/-- A version is shown by its number after a capital letter. -/
def render (version : ProtocolVersion) : String := s!"V{version.number}"

instance : ToString ProtocolVersion := ⟨render⟩

/-- The letter that may precede a version number. -/
def isMark (c : Char) : Bool := c == 'v' || c == 'V'

/-- Reads a version: blank characters around it and every letter `v` before the number are ignored.
The number has to fit in a byte.  The error carries the text as it was given. -/
def parse (text : String) : Except UnsupportedVersion ProtocolVersion :=
  match (Text.readByte? ((Text.trimmed text).dropWhile isMark)).bind (ofNumber? ·.toNat) with
  | some version => .ok version
  | none => .error ⟨text⟩

/-- The bytes that the header of a frame takes. -/
def headerSize (_version : ProtocolVersion) : Nat := 9

/-- Whether request flags are written as four bytes instead of one. -/
def hasWideFlags : ProtocolVersion → Bool
  | v3 | v4 => false
  | v5 => true

/-- The bytes that the flags of a request take. -/
def flagsSize (version : ProtocolVersion) : Nat :=
  if version.hasWideFlags then 4 else 1

/-- Whether an execute request carries the id of the result metadata that the client knows. -/
def sendsResultMetadataId : ProtocolVersion → Bool
  | v3 | v4 => false
  | v5 => true

/-- Whether a value may be written as unset. -/
def writesUnset : ProtocolVersion → Bool
  | v3 => false
  | v4 | v5 => true

end ProtocolVersion

/-- A capability that only some protocol versions have. -/
inductive Feature where
  /-- Bound values may be left unset instead of being bound to null. -/
  | unsetValues
  /-- A query or batch may name the keyspace that it runs against. -/
  | requestKeyspace
  /-- Frames may carry a map of custom entries. -/
  | customPayload
  deriving DecidableEq, Repr

/-- Says which features a protocol version supports. -/
abbrev FeatureTable := ProtocolVersion → Feature → Bool

namespace FeatureTable

/-- The features of the published protocol versions. -/
def standard : FeatureTable
  | .v3, _ => false
  | .v4, .requestKeyspace => false
  | .v4, _ => true
  | .v5, _ => true

/-- Exactly the listed features, whatever the version. -/
def only (features : List Feature) : FeatureTable :=
  fun _ feature => feature ∈ features

end FeatureTable

end CqlWire
