/-!
# Blank characters

The characters with the Unicode property `White_Space`, and the removal of them from both ends of a
text.  The table has 25 characters, six of which are ASCII.
-/

namespace CqlWire.Text

/-- Whether a character has the property `White_Space`. -/
def isBlank (c : Char) : Bool :=
  (0x9 ≤ c.toNat && c.toNat ≤ 0xD) || c.toNat == 0x20 || c.toNat == 0x85 || c.toNat == 0xA0 ||
  c.toNat == 0x1680 || (0x2000 ≤ c.toNat && c.toNat ≤ 0x200A) || c.toNat == 0x2028 ||
  c.toNat == 0x2029 || c.toNat == 0x202F || c.toNat == 0x205F || c.toNat == 0x3000

/-- The characters left after those for which `p` holds are removed from both ends. -/
def stripBoth (p : Char → Bool) (chars : List Char) : List Char :=
  ((chars.dropWhile p).reverse.dropWhile p).reverse

/-- The characters of a text without the blank ones at its ends. -/
def trimmed (text : String) : List Char :=
  stripBoth isBlank text.toList

end CqlWire.Text
