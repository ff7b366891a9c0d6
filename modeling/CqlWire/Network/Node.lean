import CqlWire.Network.IpAddress

/-!
# Nodes of a cluster

A node is known by its endpoint: an address, and the number of the service at that address.  It is
shown as its endpoint, in which a version 6 address stands between brackets.
-/

namespace CqlWire

/-- Where a node listens. -/
structure Endpoint where
  address : IpAddress
  /-- The number of the service at the address. -/
  service : UInt16
  deriving DecidableEq, Repr

namespace Endpoint

def render (endpoint : Endpoint) : String :=
  match endpoint.address with
  | .v4 _ => s!"{endpoint.address}:{endpoint.service.toNat}"
  | .v6 _ => s!"[{endpoint.address}]:{endpoint.service.toNat}"

/-- Reads the number of a service. -/
def readService? (text : String) : Option UInt16 :=
  ((Text.readDigits? text.toList).filter (· < 65536)).map UInt16.ofNat

/-- Reads an endpoint: an address, a colon and a number; a version 6 address between brackets. -/
def parse? (text : String) : Option Endpoint :=
  match text.splitOn "]:" with
  | [bracketed, service] => do
    let '[' :: inner := bracketed.toList | none
    let address ← IpAddress.parse? (String.ofList inner)
    let .v6 _ := address | none
    return ⟨address, ← readService? service⟩
  | _ =>
    match text.splitOn ":" with
    | [host, service] => do
      let address ← IpAddress.parse? host
      return ⟨address, ← readService? service⟩
    | _ => none

end Endpoint

/-- Identity of a cluster node, as seen by the request that reached it. -/
structure Node where
  endpoint : Endpoint
  datacenter : Option String := none
  deriving DecidableEq, Repr

namespace Node

/-- A node is shown as its endpoint. -/
def render (node : Node) : String := node.endpoint.render

instance : ToString Node := ⟨render⟩

end Node

end CqlWire
