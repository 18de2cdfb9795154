/-!
# Addresses

Internet addresses of both families, and the endpoints that they form with a port.
-/

namespace RangeServer

/-- An address of four octets. -/
structure Ipv4 where
  first : UInt8
  second : UInt8
  third : UInt8
  fourth : UInt8
  deriving DecidableEq, Repr

/-- An address of eight groups of sixteen bits. -/
structure Ipv6 where
  groups : List UInt16
  eight : groups.length = 8 := by decide
  deriving DecidableEq

/-- An address of either family; addresses of the later family may name a zone. -/
inductive IpAddress where
  | v4 (address : Ipv4)
  | v6 (address : Ipv6) (zone : UInt32)
  deriving DecidableEq

/-- An address with a port. -/
structure Endpoint where
  address : IpAddress
  port : UInt16
  deriving DecidableEq

namespace IpAddress

/-- Whether an address is of the four-octet family. -/
def isV4 : IpAddress → Bool
  | .v4 _ => true
  | .v6 _ _ => false

end IpAddress

namespace Ipv4

/-- The address that stands for all addresses of the host. -/
def any : Ipv4 := ⟨0, 0, 0, 0⟩

/-- The octets in order. -/
def octets (address : Ipv4) : List UInt8 :=
  [address.first, address.second, address.third, address.fourth]

/-- Whether an address loops back to the host. -/
def isLoopback (address : Ipv4) : Bool := address.first == 127

/-- The two groups that hold the four octets. -/
def toGroups (address : Ipv4) : List UInt16 :=
  [address.first.toUInt16 * 256 + address.second.toUInt16,
    address.third.toUInt16 * 256 + address.fourth.toUInt16]

end Ipv4

end RangeServer
