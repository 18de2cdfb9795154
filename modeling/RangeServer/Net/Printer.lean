import RangeServer.Net.Address
import RangeServer.Text.Decimal

/-!
# Writing addresses

Four octets are written in decimal with dots between them. Eight groups are written in hexadecimal
with colons between them, the first longest run of at least two zero groups as an empty pair of
colons; groups that embed four octets behind `ffff` show these in decimal.
-/

namespace RangeServer

/-- A number in hexadecimal, small letters, no leading zeros. -/
def hexText (number : Nat) : String := String.ofList (Nat.toDigits 16 number)

/-- The octets in decimal, with dots between them. -/
def Ipv4.text (address : Ipv4) : String :=
  ".".intercalate (address.octets.map fun octet => Decimal.text octet.toNat)

namespace Ipv6

/-- A run of zero groups: where it starts and how long it is. -/
structure ZeroRun where
  start : Nat
  length : Nat
  deriving DecidableEq, Repr

/-- The longest of the runs seen so far and the run that is still open, after one more group at a
position; of equally long runs the earlier stays. -/
def extendRuns (runs : ZeroRun × ZeroRun) (position : Nat) (group : UInt16) : ZeroRun × ZeroRun :=
  if group == 0 then
    let current := if runs.2.length == 0 then ⟨position, 1⟩ else ⟨runs.2.start, runs.2.length + 1⟩
    (if runs.1.length < current.length then current else runs.1, current)
  else (runs.1, ⟨0, 0⟩)

/-- The first longest run of zero groups; of length zero if there is none. -/
def longestZeros (groups : List UInt16) : ZeroRun :=
  ((groups.zipIdx.foldl (fun runs entry => extendRuns runs entry.2 entry.1)
    (⟨0, 0⟩, ⟨0, 0⟩)).1)

/-- Groups in hexadecimal with colons between them. -/
def groupsText (groups : List UInt16) : String :=
  ":".intercalate (groups.map fun group => hexText group.toNat)

/-- The four octets that an address embeds behind five zero groups and `ffff`, if it does. -/
def embedded? (address : Ipv6) : Option Ipv4 :=
  match address.groups with
  | [0, 0, 0, 0, 0, 0xFFFF, high, low] =>
    some ⟨(high / 256).toUInt8, (high % 256).toUInt8, (low / 256).toUInt8, (low % 256).toUInt8⟩
  | _ => none

/-- The written form of an address. -/
def text (address : Ipv6) : String :=
  match address.embedded? with
  | some octets => "::ffff:" ++ octets.text
  | none =>
    let zeros := longestZeros address.groups
    if 1 < zeros.length then
      groupsText (address.groups.take zeros.start) ++ "::" ++
        groupsText (address.groups.drop (zeros.start + zeros.length))
    else groupsText address.groups

end Ipv6

/-- The written form of an address, without its zone. -/
def IpAddress.text : IpAddress → String
  | .v4 address => address.text
  | .v6 address _ => address.text

/-- The written form of an endpoint; groups stand in brackets, with the zone unless it is zero. -/
def Endpoint.text (endpoint : Endpoint) : String :=
  let port := ":" ++ Decimal.text endpoint.port.toNat
  match endpoint.address with
  | .v4 address => address.text ++ port
  | .v6 address zone =>
    let suffix := if zone == 0 then "" else "%" ++ Decimal.text zone.toNat
    "[" ++ address.text ++ suffix ++ "]" ++ port

end RangeServer
