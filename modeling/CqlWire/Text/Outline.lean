import CqlWire.Bytes
import CqlWire.Text.Numeral
import CqlWire.Text.Printable

/-!
# Outlines of structured values

An outline shows a value by the name of its constructor and by its fields.  It is what a diagnostic
message embeds when a value has to be shown whole.  Text inside an outline is quoted, and characters
that do not show by themselves are written by their number.
-/

namespace CqlWire.Text

/-- How one character is written between double quotes. -/
def escapeChar (c : Char) : String :=
  if c = '\x00' then "\\0"
  else if c = '\t' then "\\t"
  else if c = '\n' then "\\n"
  else if c = '\r' then "\\r"
  else if c = '"' then "\\\""
  else if c = '\\' then "\\\\"
  else if isPrintable c then String.singleton c
  else "\\u\x7b" ++ hexadecimal 1 c.toNat ++ "\x7d"

/-- A text between double quotes. -/
def quoted (text : String) : String :=
  "\"" ++ String.join (text.toList.map escapeChar) ++ "\""

/-- The outline of a value. -/
inductive Outline where
  /-- A value that is written as it stands: a number, a truth value, an address. -/
  | atom (shown : String)
  /-- A quoted text. -/
  | text (content : String)
  /-- A quoted byte string. -/
  | bytes (content : Bytes)
  /-- Entries of a map, in order. -/
  | map (entries : List (String × String))
  /-- A constructor with unnamed fields; one without fields is its bare name. -/
  | tuple (name : String) (fields : List Outline)
  /-- A constructor with named fields. -/
  | record (name : String) (fields : List (String × Outline))

namespace Outline

/-- Writes an outline on one line. -/
def render : Outline → String
  | .atom shown => shown
  | .text content => quoted content
  | .bytes content => Bytes.quoted content
  | .map entries =>
    "\x7b" ++ ", ".intercalate (entries.map fun (key, value) => key ++ ": " ++ value) ++ "\x7d"
  | .tuple name [] => name
  | .tuple name fields => name ++ "(" ++ ", ".intercalate (renderAll fields) ++ ")"
  | .record name fields => name ++ " \x7b " ++ ", ".intercalate (renderFields fields) ++ " \x7d"
where
  renderAll : List Outline → List String
    | [] => []
    | field :: fields => render field :: renderAll fields
  renderFields : List (String × Outline) → List String
    | [] => []
    | (label, field) :: fields => (label ++ ": " ++ render field) :: renderFields fields

def number (n : Int) : Outline := atom (toString n)

def truth (b : Bool) : Outline := atom (if b then "true" else "false")

end Outline

end CqlWire.Text
