import Mathlib
import RangeServer.Net.Printer
import RangeServer.Proofs.AddressReading

/-!
# Hosts and their addresses

The endpoint to listen on comes of a host and a port, which are joined by a colon and read again as
one text. So the host could move the port, or name an address that nobody sees in it. It does
neither: `Endpoint.ofHost?_exact` shows that the endpoint has the port that was set, and the address
that the host spells by itself, as four octets or as eight groups in brackets, and that all other
hosts are refused. What four octets spell is printed as it was written.

The port is what stands behind the last colon, for a numeral has none; this is why a host with a
colon of its own cannot move it.
-/

namespace RangeServer

/-- The texts that spell a zone: none at all for zone zero, or a numeral behind a percent sign. -/
inductive SpellsZone : List Char → UInt32 → Prop where
  | none : SpellsZone [] 0
  | numbered {run : List Char} {zone : UInt32} (numeral : Decimal.isNumeral run = true)
      (value : Decimal.value run = zone.toNat) : SpellsZone ('%' :: run) zone

/-- The texts that spell an address where a host stands: four octets, or eight groups in brackets,
with a zone or without one. -/
inductive IpAddress.Spells : List Char → IpAddress → Prop where
  | octets {text : List Char} {address : Ipv4} (spells : Ipv4.Spells text address) :
      Spells text (.v4 address)
  | bracketed {run zoneRun : List Char} {address : Ipv6} {zone : UInt32}
      (spells : Ipv6.Spells run address.groups) (isZone : SpellsZone zoneRun zone) :
      Spells ('[' :: (run ++ (zoneRun ++ [']']))) (.v6 address zone)

namespace AddressReader

variable {text rest run zoneRun : List Char}

/-! ## Zones and ports -/

theorem exists_of_zone (text : List Char) :
    ∃ run, text = run ++ (zone text).2 ∧ SpellsZone run (zone text).1 := by
  cases taken : (char '%' text).bind (number (Word.count32 - 1)) with
  | none =>
      have isRead : zone text = (0, text) := by rw [zone, taken]
      rw [isRead]
      exact ⟨[], rfl, .none⟩
  | some found =>
      rcases found with ⟨value, behind⟩
      have isRead : zone text = (value.toUInt32, behind) := by rw [zone, taken]
      rcases Option.bind_eq_some_iff.mp taken with ⟨_, isChar, isNumber⟩
      rcases number_eq_some_iff.mp isNumber with ⟨run, rfl, numeral, isValue, fits, -⟩
      rw [isRead]
      refine ⟨'%' :: run, char_eq_some_iff.mp isChar, .numbered numeral ?_⟩
      change value ≤ 4294967295 at fits
      rw [isValue, Nat.toUInt32_eq, UInt32.toNat_ofNat', Nat.mod_eq_of_lt (by omega)]

theorem zone_of_spells {found : UInt32} (spells : SpellsZone zoneRun found) :
    zone (zoneRun ++ ']' :: rest) = (found, ']' :: rest) := by
  cases spells with
  | none => rfl
  | @numbered run _ numeral value =>
      have isNumber : number (Word.count32 - 1) (run ++ ']' :: rest) =
          some (found.toNat, ']' :: rest) := by
        refine number_eq_some_iff.mpr ⟨run, rfl, numeral, value, ?_, stops_cons rfl rest⟩
        have bound := found.toNat_lt
        change found.toNat ≤ 4294967295
        omega
      have percent : char '%' ('%' :: (run ++ ']' :: rest)) = some (run ++ ']' :: rest) := rfl
      rw [zone, List.cons_append, percent, Option.bind_some, isNumber]
      simp

theorem port_eq_some_iff {found : UInt16} :
    port text = some (found, rest) ↔
      ∃ run, text = ':' :: (run ++ rest) ∧ Decimal.isNumeral run = true ∧
        Decimal.value run = found.toNat ∧ ∀ c ∈ rest.head?, c.isDigit = false := by
  simp only [port, Option.bind_eq_bind, Option.bind_eq_some_iff, Prod.exists, char_eq_some_iff,
    number_eq_some_iff]
  constructor
  · rintro ⟨_, rfl, value, _, ⟨run, rfl, numeral, isValue, fits, stops⟩, isPort⟩
    cases isPort
    refine ⟨run, rfl, numeral, ?_, stops⟩
    rw [isValue, Nat.toUInt16_eq, UInt16.toNat_ofNat', Nat.mod_eq_of_lt (by omega)]
  · rintro ⟨run, rfl, numeral, isValue, stops⟩
    have bound := found.toNat_lt
    refine ⟨_, rfl, found.toNat, rest, ⟨run, rfl, numeral, isValue, by omega, stops⟩, ?_⟩
    simp

/-! ## Endpoints -/

/-- Whether a text spells an endpoint: an address and, behind a colon, the numeral of a port. -/
def SpellsEndpoint (text : List Char) (endpoint : Endpoint) : Prop :=
  ∃ host run, text = host ++ ':' :: run ∧ IpAddress.Spells host endpoint.address ∧
    Decimal.isNumeral run = true ∧ Decimal.value run = endpoint.port.toNat

theorem spells_of_endpointV4 {endpoint : Endpoint}
    (isRead : endpointV4 text = some (endpoint, [])) : SpellsEndpoint text endpoint := by
  simp only [endpointV4, Option.bind_eq_bind, Option.bind_eq_some_iff, Prod.exists,
    ipv4_eq_some_iff, port_eq_some_iff] at isRead
  rcases isRead with ⟨address, _, ⟨host, rfl, spells, -⟩, found, _,
    ⟨run, rfl, numeral, isValue, -⟩, isEndpoint⟩
  cases isEndpoint
  exact ⟨host, run, by rw [List.append_nil], .octets spells, numeral, isValue⟩

theorem spells_of_endpointV6 {endpoint : Endpoint}
    (isRead : endpointV6 text = some (endpoint, [])) : SpellsEndpoint text endpoint := by
  simp only [endpointV6, Option.bind_eq_bind, Option.bind_eq_some_iff, Prod.exists,
    char_eq_some_iff, port_eq_some_iff] at isRead
  rcases isRead with ⟨_, rfl, address, behind, isAddress, _, closed, port, _,
    ⟨run, rfl, numeral, isValue, -⟩, isEndpoint⟩
  cases isEndpoint
  rcases exists_of_ipv6 isAddress with ⟨addressRun, rfl, spells⟩
  rcases exists_of_zone behind with ⟨zoneRun, isBehind, isZone⟩
  refine ⟨_, run, ?_, .bracketed spells isZone, numeral, isValue⟩
  rw [closed, List.append_nil] at isBehind
  rw [isBehind]
  simp only [List.cons_append, List.append_assoc, List.nil_append]

theorem stops_bracket (behind : List Char) : Stops (']' :: behind) where
  noneAt := stops_cons rfl behind
  noDot := by simp
  noneBehind := by simp [char]

theorem stops_zone {zone : UInt32} (isZone : SpellsZone zoneRun zone) (behind : List Char) :
    Stops (zoneRun ++ ']' :: behind) := by
  cases isZone with
  | none => exact stops_bracket behind
  | numbered numeral value => exact ⟨stops_cons rfl _, by simp, by simp [char]⟩

theorem endpointV4_of_spells {address : Ipv4} (spells : Ipv4.Spells text address)
    (numeral : Decimal.isNumeral run = true) {found : UInt16}
    (value : Decimal.value run = found.toNat) :
    endpointV4 (text ++ ':' :: run) = some (⟨.v4 address, found⟩, []) := by
  have isAddress : ipv4 (text ++ ':' :: run) = some (address, ':' :: run) :=
    ipv4_eq_some_iff.mpr ⟨text, rfl, spells, stops_cons rfl run⟩
  have isPort : port (':' :: run) = some (found, []) :=
    port_eq_some_iff.mpr ⟨run, by rw [List.append_nil], numeral, value, by simp⟩
  simp [endpointV4, isAddress, isPort]

theorem endpointV6_of_spells {address : Ipv6} (spells : Ipv6.Spells text address.groups)
    {found : UInt32} (isZone : SpellsZone zoneRun found)
    (numeral : Decimal.isNumeral run = true) {port : UInt16}
    (value : Decimal.value run = port.toNat) :
    endpointV6 ('[' :: (text ++ (zoneRun ++ ']' :: ':' :: run))) =
      some (⟨.v6 address found, port⟩, []) := by
  have isAddress := ipv6_of_spells spells (stops_zone isZone (':' :: run))
  have isPort : AddressReader.port (':' :: run) = some (port, []) :=
    port_eq_some_iff.mpr ⟨run, by rw [List.append_nil], numeral, value, by simp⟩
  simp [endpointV6, char, isAddress, zone_of_spells isZone, isPort]

theorem endpointV4_bracket (behind : List Char) : endpointV4 ('[' :: behind) = none := by
  have noneAt : NoneAt ('[' :: behind) := stops_cons rfl behind
  simp [endpointV4, ipv4_eq_none noneAt]

end AddressReader

namespace Endpoint

open AddressReader

/-- A text is read as the endpoint that it spells, if it spells one. -/
theorem read?_eq_some_iff {text : String} {endpoint : Endpoint} :
    read? text = some endpoint ↔ SpellsEndpoint text.toList endpoint := by
  constructor
  · intro isRead
    rw [read?] at isRead
    split at isRead
    · rename_i found taken
      cases isRead
      exact spells_of_endpointV4 taken
    · split at isRead
      · rename_i found taken
        cases isRead
        exact spells_of_endpointV6 taken
      · cases isRead
  · rcases endpoint with ⟨address, port⟩
    rintro ⟨host, run, isText, spells, numeral, value⟩
    rw [read?, isText]
    cases spells with
    | octets spells => rw [endpointV4_of_spells spells numeral value]
    | bracketed spells isZone =>
        have isRead := endpointV6_of_spells spells isZone numeral value
        simp only [List.cons_append, List.append_assoc, List.nil_append, endpointV4_bracket, isRead]

/-- The numeral behind the last colon is the same wherever a text is parted. -/
theorem parted_by_colon {front other run numeral : List Char}
    (isRun : Decimal.isNumeral run = true) (isNumeral : Decimal.isNumeral numeral = true)
    (same : front ++ ':' :: run = other ++ ':' :: numeral) : front = other ∧ run = numeral := by
  have colon : Char.isDigit ':' = false := rfl
  have backward {run : List Char} (isRun : Decimal.isNumeral run = true) :
      Decimal.isNumeral run.reverse = true := by
    simpa [Decimal.isNumeral] using isRun
  have mirrored : run.reverse ++ ':' :: front.reverse =
      numeral.reverse ++ ':' :: other.reverse := by
    simpa using congrArg List.reverse same
  have upToColon := congrArg (List.takeWhile (· != ':')) mirrored
  rw [Decimal.takeWhile_append_mark (backward isRun) colon,
    Decimal.takeWhile_append_mark (backward isNumeral) colon, List.reverse_inj] at upToColon
  subst upToColon
  have behindRun := List.append_cancel_left mirrored
  exact ⟨List.reverse_inj.mp (List.cons.inj behindRun).2, rfl⟩

theorem ofHost?_eq_some_iff {host : String} {port : UInt16} {endpoint : Endpoint} :
    ofHost? host port = some endpoint ↔
      IpAddress.Spells host.toList endpoint.address ∧ endpoint.port = port := by
  have written : (host ++ ":" ++ Decimal.text port.toNat).toList =
      host.toList ++ ':' :: Decimal.digits port.toNat := by
    simp only [String.toList_append, Decimal.toList_text, List.append_assoc]
    rfl
  have isNumeral := Decimal.isNumeral_digits port.toNat
  rw [ofHost?, read?_eq_some_iff, written]
  constructor
  · rintro ⟨front, run, same, spells, isRun, value⟩
    rcases parted_by_colon isNumeral isRun same with ⟨rfl, rfl⟩
    rw [Decimal.value_digits] at value
    exact ⟨spells, UInt16.toNat.inj value.symm⟩
  · rintro ⟨spells, rfl⟩
    exact ⟨_, _, rfl, spells, isNumeral, Decimal.value_digits _⟩

/-- Four octets are printed as they are written. -/
theorem text_of_spells {text : String} {address : Ipv4}
    (spells : Ipv4.Spells text.toList address) (port : UInt16) :
    Endpoint.text ⟨.v4 address, port⟩ = text ++ ":" ++ Decimal.text port.toNat := by
  have printed : address.text = text := by
    rw [← String.toList_inj]
    generalize text.toList = run at spells
    cases spells with
    | octets isFirst isSecond isThird isFourth =>
        rw [isFirst.eq_digits, isSecond.eq_digits, isThird.eq_digits, isFourth.eq_digits]
        simp [Ipv4.text, Ipv4.octets]
  rw [← printed, String.append_assoc]
  rfl

/-- Whatever the host and the port are: the endpoint has that port and the address that the host
spells, and there is none if the host spells no address. A host spells four octets exactly if the
endpoint has an address of four octets and is printed as the host, a colon and the port. -/
theorem ofHost?_exact (host : String) (port : UInt16) :
    (∀ endpoint, ofHost? host port = some endpoint ↔
      IpAddress.Spells host.toList endpoint.address ∧ endpoint.port = port) ∧
      (ofHost? host port = none ↔ ∀ address, ¬IpAddress.Spells host.toList address) ∧
      ∀ address, Ipv4.Spells host.toList address ↔
        ofHost? host port = some ⟨.v4 address, port⟩ ∧
          Endpoint.text ⟨.v4 address, port⟩ = host ++ ":" ++ Decimal.text port.toNat := by
  refine ⟨fun _ => ofHost?_eq_some_iff, ?_, ?_⟩
  · rw [Option.eq_none_iff_forall_ne_some]
    constructor
    · intro refused address spells
      exact refused ⟨address, port⟩ (ofHost?_eq_some_iff.mpr ⟨spells, rfl⟩)
    · intro spellsNone endpoint isRead
      exact spellsNone endpoint.address (ofHost?_eq_some_iff.mp isRead).1
  · intro address
    constructor
    · intro spells
      exact ⟨ofHost?_eq_some_iff.mpr ⟨.octets spells, rfl⟩, text_of_spells spells port⟩
    · rintro ⟨isRead, -⟩
      have spells := (ofHost?_eq_some_iff.mp isRead).1
      generalize host.toList = text at spells ⊢
      cases spells with
      | octets spells => exact spells

/-- A host with a port of its own. -/
example : ofHost? "127.0.0.1:80" 8000 = none := by cbv

/-- Groups around an empty pair of colons, and a zone with a zero in front. -/
example : ofHost? "[a::1%02]" 80 = some ⟨.v6 ⟨[10, 0, 0, 0, 0, 0, 0, 1], rfl⟩ 2, 80⟩ := by cbv

end Endpoint

end RangeServer
