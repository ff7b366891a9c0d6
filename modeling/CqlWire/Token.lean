import CqlWire.Bytes

/-!
# Partitioner tokens

A token is a position on the ring of one partitioner.  There are three schemes, and their positions
have nothing to do with each other: a signed 64-bit hash, a number in `[0, 2^127)`, and the bytes of
the partition key themselves.  Tokens of one scheme are totally ordered; comparing tokens of two
schemes is an error rather than an arbitrary answer.

Trailing zero bytes of a key carry no order, so a key token is held without them
(`KeyToken.shorten_shorten`: once is enough).  Its first byte is always kept, so a key of zeros is a
single zero byte, while the empty key, the least position, stays empty.
-/

namespace CqlWire

/-! ### Key tokens -/

namespace KeyToken

/-- The bytes without the zeros at the end. -/
def dropTrailingZeros (bytes : Bytes) : Bytes :=
  (bytes.reverse.dropWhile (· == 0)).reverse

/-- The bytes of a key without trailing zeros, the first byte excepted. -/
def shorten : Bytes → Bytes
  | [] => []
  | first :: rest => first :: dropTrailingZeros rest

theorem dropWhile_dropWhile (p : UInt8 → Bool) (bytes : Bytes) :
    (bytes.dropWhile p).dropWhile p = bytes.dropWhile p := by
  induction bytes with
  | nil => rfl
  | cons byte rest ih => by_cases h : p byte <;> simp [h, ih]

/-- Nothing is left to remove after the first time. -/
@[simp] theorem shorten_shorten (bytes : Bytes) : shorten (shorten bytes) = shorten bytes := by
  cases bytes with
  | nil => rfl
  | cons first rest => simp [shorten, dropTrailingZeros, dropWhile_dropWhile]

end KeyToken

/-- The position of a partition key in the order of the keys themselves. -/
structure KeyToken where
  bytes : Bytes
  /-- No trailing zeros are held. -/
  shortened : KeyToken.shorten bytes = bytes
  deriving DecidableEq, Repr

/-- The token of a key. -/
def KeyToken.ofKey (key : Bytes) : KeyToken :=
  ⟨shorten key, shorten_shorten key⟩

/-! ### Tokens of any scheme -/

/-- The partitioning schemes. -/
inductive TokenScheme where
  | hash64
  | bigint
  | raw
  deriving DecidableEq, Repr

def TokenScheme.name : TokenScheme → String
  | hash64 => "Hash64Token"
  | bigint => "BigIntToken"
  | raw => "RawToken"

/-- The number of positions on the ring of the numeric scheme. -/
abbrev ringSize : Nat := Nat.pow 2 127

/-- A token of any scheme. -/
inductive Token where
  | hash64 (value : Int64)
  | bigint (value : Fin ringSize)
  | raw (key : KeyToken)
  deriving DecidableEq, Repr

/-- What can go wrong with tokens. -/
inductive TokenError where
  /-- Two tokens of different schemes were compared. -/
  | mismatch (left right : TokenScheme)
  /-- A number beyond the ring. -/
  | outOfRange (value : Nat)
  deriving DecidableEq, Repr

def TokenError.message : TokenError → String
  | mismatch left right =>
    s!"can only compare tokens of the same type (got {left.name} and {right.name})"
  | outOfRange value => s!"token {value} is outside of the ring range [0, 2^127)"

namespace Token

def scheme : Token → TokenScheme
  | hash64 _ => .hash64
  | bigint _ => .bigint
  | raw _ => .raw

/-- The token at a given place of the numeric ring. -/
def ofNat (value : Nat) : Except TokenError Token :=
  if h : value < ringSize then .ok (bigint ⟨value, h⟩) else .error (.outOfRange value)

/-- The token of a partition key. -/
def ofKey (key : Bytes) : Token := raw (.ofKey key)

/-- The written form of a token: its scheme and its position. -/
def render : Token → String
  | hash64 value => s!"Hash64Token({value.toInt})"
  | bigint value => s!"BigIntToken({value.val})"
  | raw key => s!"RawToken(0x{key.bytes.toHex})"

/-! ### Order -/

/-- Compares two tokens of one scheme: hashes as signed numbers, ring positions as numbers, and keys
as byte strings in unsigned lexicographic order. -/
def compare : Token → Token → Except TokenError Ordering
  | hash64 a, hash64 b => .ok (Ord.compare a.toInt b.toInt)
  | bigint a, bigint b => .ok (Ord.compare a.val b.val)
  | raw a, raw b => .ok (Ord.compare a.bytes b.bytes)
  | a, b => .error (.mismatch a.scheme b.scheme)

/-- Puts a token at its place in a strictly increasing list of tokens of its scheme; a token that is
there already is not repeated. -/
def insertOrdered (token : Token) : List Token → List Token
  | [] => [token]
  | head :: tail =>
    match compare token head with
    | .ok .lt => token :: head :: tail
    | .ok .eq => head :: tail
    | _ => head :: insertOrdered token tail

/-- The different tokens of one scheme among the given ones, in increasing order. -/
def ordered (scheme : TokenScheme) (tokens : List Token) : List Token :=
  (tokens.filter fun token => token.scheme = scheme).foldl (fun sorted token =>
    insertOrdered token sorted) []

/-- The number of different tokens among the given ones. -/
def countDistinct (tokens : List Token) : Nat :=
  tokens.eraseDups.length

end Token

end CqlWire
