import RangeServer.Net.Address
import RangeServer.Number.Powers
import RangeServer.Text.Decimal

/-!
# Reading addresses

Readers of addresses and endpoints. Each takes characters from the front of a text and gives what
it read together with the rest. Octets have no leading zeros; groups have up to four hexadecimal
digits; ports and zones may have leading zeros.
-/

namespace RangeServer.AddressReader

/-- Takes one given character. -/
def char (expected : Char) : List Char → Option (List Char)
  | c :: rest => if c == expected then some rest else none
  | [] => none

/-- The value of a hexadecimal digit. -/
def hexValue? (c : Char) : Option Nat :=
  if c.isDigit then some (c.toNat - '0'.toNat)
  else if 'a' ≤ c ∧ c ≤ 'f' then some (c.toNat - 'a'.toNat + 10)
  else if 'A' ≤ c ∧ c ≤ 'F' then some (c.toNat - 'A'.toNat + 10)
  else none

/-- The number that hexadecimal digits denote. -/
def hexValue (run : List Char) : Nat :=
  run.foldl (fun value c => value * 16 + (hexValue? c).getD 0) 0

/-- Takes a decimal number up to a bound, leading zeros allowed. -/
def number (bound : Nat) (text : List Char) : Option (Nat × List Char) :=
  let run := text.takeWhile Char.isDigit
  if run.isEmpty ∨ bound < Decimal.value run then none
  else some (Decimal.value run, text.dropWhile Char.isDigit)

/-- Takes an octet: at most three digits, no leading zero, at most 255. -/
def octet (text : List Char) : Option (UInt8 × List Char) :=
  let run := text.takeWhile Char.isDigit
  if 3 < run.length ∨ (run.head? = some '0' ∧ 1 < run.length) then none
  else (number 255 text).map fun (value, rest) => (value.toUInt8, rest)

/-- Takes four octets with dots between them. -/
def ipv4 (text : List Char) : Option (Ipv4 × List Char) := do
  let (first, rest) ← octet text
  let (second, rest) ← octet (← char '.' rest)
  let (third, rest) ← octet (← char '.' rest)
  let (fourth, rest) ← octet (← char '.' rest)
  return (⟨first, second, third, fourth⟩, rest)

/-- Takes a group: one to four hexadecimal digits. -/
def group (text : List Char) : Option (UInt16 × List Char) :=
  let run := text.takeWhile fun c => (hexValue? c).isSome
  if run.isEmpty ∨ 4 < run.length then none
  else some ((hexValue run).toUInt16, text.dropWhile fun c => (hexValue? c).isSome)

/-- Takes the colon in front of every group but the first. -/
def separator (isFirst : Bool) (text : List Char) : Option (List Char) :=
  if isFirst then some text else char ':' text

/-- Takes up to `room` groups with colons between them; four octets may take the place of the last
two groups and end the run. Gives the groups, whether octets ended them, and the rest. -/
def groups (isFirst : Bool) : Nat → List Char → List UInt16 × Bool × List Char
  | 0, text => ([], false, text)
  | room + 1, text =>
    let embedded := if 1 ≤ room then (separator isFirst text).bind ipv4 else none
    match embedded with
    | some (octets, rest) => (octets.toGroups, true, rest)
    | none =>
      match (separator isFirst text).bind group with
      | none => ([], false, text)
      | some (value, rest) =>
        let (more, ended, rest) := groups false room rest
        (value :: more, ended, rest)

/-- Eight groups, if there are eight. -/
def ofGroups? (values : List UInt16) : Option Ipv6 :=
  if eight : values.length = 8 then some ⟨values, eight⟩ else none

/-- Takes eight groups, or fewer with an empty pair of colons in place of at least one. -/
def ipv6 (text : List Char) : Option (Ipv6 × List Char) := do
  let (front, ended, rest) := groups true 8 text
  if front.length = 8 then
    return (← ofGroups? front, rest)
  if ended then
    none
  let rest ← char ':' (← char ':' rest)
  let (back, _, rest) := groups true (7 - front.length) rest
  let zeros := List.replicate (8 - front.length - back.length) 0
  return (← ofGroups? (front ++ zeros ++ back), rest)

/-- Takes the zone behind a percent sign; without one, or with one that does not fit, nothing is
taken and the zone is zero. -/
def zone (text : List Char) : UInt32 × List Char :=
  match (char '%' text).bind (number (Word.count32 - 1)) with
  | some (value, rest) => (value.toUInt32, rest)
  | none => (0, text)

/-- Takes a colon and a port. -/
def port (text : List Char) : Option (UInt16 × List Char) := do
  let (value, rest) ← number 65535 (← char ':' text)
  return (value.toUInt16, rest)

/-- Takes an endpoint with four octets. -/
def endpointV4 (text : List Char) : Option (Endpoint × List Char) := do
  let (address, rest) ← ipv4 text
  let (port, rest) ← port rest
  return (⟨.v4 address, port⟩, rest)

/-- Takes an endpoint with groups in brackets. -/
def endpointV6 (text : List Char) : Option (Endpoint × List Char) := do
  let (address, rest) ← ipv6 (← char '[' text)
  let (zone, rest) := zone rest
  let (port, rest) ← port (← char ']' rest)
  return (⟨.v6 address zone, port⟩, rest)

end RangeServer.AddressReader

namespace RangeServer

/-- The endpoint that a text spells from its first to its last character. -/
def Endpoint.read? (text : String) : Option Endpoint :=
  match AddressReader.endpointV4 text.toList with
  | some (endpoint, []) => some endpoint
  | _ =>
    match AddressReader.endpointV6 text.toList with
    | some (endpoint, []) => some endpoint
    | _ => none

/-- The words for a host and a port that spell no endpoint. -/
def Endpoint.refusal : String := "Invalid address: invalid socket address syntax"

/-- The endpoint of a host and a port, read from the two joined by a colon. -/
def Endpoint.ofHost? (host : String) (port : UInt16) : Option Endpoint :=
  Endpoint.read? (host ++ ":" ++ Decimal.text port.toNat)

end RangeServer
