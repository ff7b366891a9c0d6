/-!
# Kinds of server errors

The kinds of errors that a server reports, and their codes on the wire.
-/

namespace CqlWire

/-- The kinds of errors that a server reports. -/
inductive ErrorKind where
  | server
  | protocol
  | authentication
  | unavailable
  | overloaded
  | bootstrapping
  | truncate
  | writeTimeout
  | readTimeout
  | readFailure
  | functionFailure
  | writeFailure
  | syntaxError
  | unauthorized
  | invalidQuery
  | invalidConfiguration
  | alreadyExists
  /-- No failure, but a request to prepare the statement again. -/
  | unprepared
  deriving DecidableEq, Repr

namespace ErrorKind

def code : ErrorKind → Int32
  | server => 0x0000
  | protocol => 0x000A
  | authentication => 0x0100
  | unavailable => 0x1000
  | overloaded => 0x1001
  | bootstrapping => 0x1002
  | truncate => 0x1003
  | writeTimeout => 0x1100
  | readTimeout => 0x1200
  | readFailure => 0x1300
  | functionFailure => 0x1400
  | writeFailure => 0x1500
  | syntaxError => 0x2000
  | unauthorized => 0x2100
  | invalidQuery => 0x2200
  | invalidConfiguration => 0x2300
  | alreadyExists => 0x2400
  | unprepared => 0x2500

/-- All kinds, by increasing code. -/
def all : List ErrorKind :=
  [server, protocol, authentication, unavailable, overloaded, bootstrapping, truncate,
    writeTimeout, readTimeout, readFailure, functionFailure, writeFailure, syntaxError,
    unauthorized, invalidQuery, invalidConfiguration, alreadyExists, unprepared]

/-- The kind of error with a given code. -/
def ofCode? (code : Int32) : Option ErrorKind :=
  all.find? fun kind => kind.code = code

/-- A kind of error is found under its own code. -/
@[simp] theorem ofCode?_code (kind : ErrorKind) : ofCode? kind.code = some kind := by
  cases kind <;> rfl

/-- Only the kind itself is found under its code. -/
theorem eq_code_of_ofCode? {code : Int32} {kind : ErrorKind} (h : ofCode? code = some kind) :
    code = kind.code := by
  have found : kind.code = code := by simpa using List.find?_some h
  exact found.symm

end ErrorKind

end CqlWire
