import RangeServer.Net.Address
import RangeServer.Storage.IoFault

/-!
# Listening addresses

The addresses that are listened on. An address can be taken if it belongs to the host and no other
listener has its port on an overlapping address. Port zero asks for any free port.
-/

namespace RangeServer

namespace Ipv4

/-- Whether listeners may use an address: it loops back, or it stands for many hosts. -/
def isBindable (address : Ipv4) : Bool :=
  address.isLoopback || address.first == 0 || (224 ≤ address.first && address.first ≤ 239) ||
    address == ⟨255, 255, 255, 255⟩

end Ipv4

namespace Ipv6

/-- The address that stands for all addresses of the host. -/
def isAny (address : Ipv6) : Bool := address.groups.all (· == 0)

/-- Whether an address loops back to the host. -/
def isLoopback (address : Ipv6) : Bool := address.groups == [0, 0, 0, 0, 0, 0, 0, 1]

end Ipv6

namespace IpAddress

/-- Whether listeners may use an address. -/
def isBindable : IpAddress → Bool
  | .v4 address => address.isBindable
  | .v6 address _ => address.isAny || address.isLoopback

/-- Whether an address stands for all addresses of its family. -/
def isAny : IpAddress → Bool
  | .v4 address => address == .any
  | .v6 address _ => address.isAny

/-- Whether connections to one address could reach a listener on the other. -/
def overlaps (left right : IpAddress) : Bool :=
  left == right || (left.isV4 == right.isV4 && (left.isAny || right.isAny))

end IpAddress

/-- The endpoints that are listened on. -/
structure Listeners where
  opened : List Endpoint
  deriving DecidableEq

namespace Listeners

/-- No listeners. -/
def empty : Listeners := ⟨[]⟩

/-- Whether an endpoint is free. -/
def isFree (listeners : Listeners) (endpoint : Endpoint) : Bool :=
  !listeners.opened.any fun other =>
    other.port == endpoint.port && other.address.overlaps endpoint.address

/-- The ports that are given to listeners that ask for any. -/
def freshPorts : List UInt16 := (List.range (60999 - 32768 + 1)).map (32768 + UInt16.ofNat ·)

/-- The endpoint with a port that is free, if it asks for any. -/
def settle (listeners : Listeners) (endpoint : Endpoint) : Option Endpoint :=
  if endpoint.port = 0 then
    (freshPorts.map fun port => { endpoint with port }).find? listeners.isFree
  else if listeners.isFree endpoint then some endpoint
  else none

/-- Starts listening: the endpoint that is listened on. -/
def bind (listeners : Listeners) (endpoint : Endpoint) :
    Except IoFault (Listeners × Endpoint) :=
  if !endpoint.address.isBindable then .error .addressUnavailable
  else
    match listeners.settle endpoint with
    | some endpoint => .ok (⟨endpoint :: listeners.opened⟩, endpoint)
    | none => .error .addressInUse

/-- Stops listening on an endpoint. -/
def release (listeners : Listeners) (endpoint : Endpoint) : Listeners :=
  ⟨listeners.opened.erase endpoint⟩

end Listeners

end RangeServer
