import CqlWire.Request.Field
import CqlWire.Timestamp

/-!
# Request attributes

What every statement may carry besides its own content: the keyspace to run in, the time of a write,
the cursor of the next page, entries to send along, a mark that it can be repeated safely, and the
profile to run with.
-/

namespace CqlWire

/-- The attributes of a request. -/
structure Attributes where
  /-- The keyspace of the request, where it differs from that of the session. -/
  keyspace : Option String := none
  timestamp : Timestamp := Timestamp.unset
  pagingState : Option Bytes := none
  customPayload : CustomPayload := ∅
  idempotent : Option Bool := none
  /-- The profile to run with, if not the default one. -/
  profile : Option String := none

namespace Attributes

def withKeyspace (attributes : Attributes) (keyspace : String) : Attributes :=
  { attributes with keyspace := some keyspace }

def withTimestamp (attributes : Attributes) (timestamp : Timestamp) : Attributes :=
  { attributes with timestamp }

def withPagingState (attributes : Attributes) (pagingState : Bytes) : Attributes :=
  { attributes with pagingState := some pagingState }

/-- The attributes with one more entry to send along; an equal key is replaced. -/
def withCustomPayload (attributes : Attributes) (key : String) (content : Bytes) : Attributes :=
  { attributes with customPayload := attributes.customPayload.insert key content }

def withIdempotence (attributes : Attributes) (idempotent : Bool) : Attributes :=
  { attributes with idempotent := some idempotent }

def withProfile (attributes : Attributes) (profile : String) : Attributes :=
  { attributes with profile := some profile }

end Attributes

end CqlWire
