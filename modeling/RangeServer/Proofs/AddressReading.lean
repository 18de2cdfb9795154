import Mathlib
import RangeServer.Net.Parser

/-!
# Addresses read exactly

What an address is made of is stated here as a grammar, without a reader: octets are decimal
numerals without zeros in front, groups are up to four hexadecimal digits, and eight groups are
written in full or with an empty pair of colons in place of some that are zero, where four octets
may take the place of the last two groups.

A reader takes from the front of a text as much as it can. `AddressReader.ipv4_eq_some_iff` and
`AddressReader.exists_of_ipv6`, `AddressReader.ipv6_of_spells` say of both families that what is
taken is what the grammar spells, and that a text that the grammar spells is taken whole, provided
that what stands behind it cannot be taken for more of it. For octets that is anything but a digit.
For groups it is also anything that could go on with a colon and a digit, and it is no dot: a reader
of groups tries four octets first, and digits that end in a dot would mislead it.
-/

namespace RangeServer

/-! ## The grammar of addresses -/

namespace Ipv4

/-- A run of characters that spells an octet: a numeral without zeros in front. -/
structure SpellsOctet (run : List Char) (octet : UInt8) : Prop where
  numeral : Decimal.isNumeral run = true
  noLeadingZero : run.head? = some '0' → run = ['0']
  value : Decimal.value run = octet.toNat

/-- The texts that spell four octets: their numerals with dots between them. -/
inductive Spells : List Char → Ipv4 → Prop where
  | octets {first second third fourth : List Char} {address : Ipv4}
      (isFirst : SpellsOctet first address.first) (isSecond : SpellsOctet second address.second)
      (isThird : SpellsOctet third address.third) (isFourth : SpellsOctet fourth address.fourth) :
      Spells (first ++ '.' :: (second ++ '.' :: (third ++ '.' :: fourth))) address

theorem SpellsOctet.eq_digits {run : List Char} {octet : UInt8} (spells : SpellsOctet run octet) :
    run = Decimal.digits octet.toNat := by
  rw [← spells.value, Decimal.digits_value spells.numeral spells.noLeadingZero]

theorem SpellsOctet.length_le {run : List Char} {octet : UInt8} (spells : SpellsOctet run octet) :
    run.length ≤ 3 := by
  rw [spells.eq_digits]
  exact (Nat.length_toDigits_le_iff (by decide) (by decide)).mpr (by have := octet.toNat_lt; omega)

end Ipv4

namespace Ipv6

/-- Whether a character is a hexadecimal digit. -/
def isHex (c : Char) : Bool := (AddressReader.hexValue? c).isSome

/-- A run of characters that spells a group: one to four hexadecimal digits. -/
structure SpellsGroup (run : List Char) (group : UInt16) : Prop where
  notEmpty : run ≠ []
  short : run.length ≤ 4
  hex : ∀ c ∈ run, isHex c = true
  value : AddressReader.hexValue run = group.toNat

/-- The texts that spell groups with colons between them, and whether four octets spell the last
two of the groups. -/
inductive SpellsGroups : List Char → List UInt16 → Bool → Prop where
  | last {run : List Char} {group : UInt16} (spells : SpellsGroup run group) :
      SpellsGroups run [group] false
  | octets {run : List Char} {address : Ipv4} (spells : Ipv4.Spells run address) :
      SpellsGroups run address.toGroups true
  | more {run rest : List Char} {group : UInt16} {groups : List UInt16} {ended : Bool}
      (spells : SpellsGroup run group) (others : SpellsGroups rest groups ended) :
      SpellsGroups (run ++ ':' :: rest) (group :: groups) ended

/-- The texts that spell groups with colons between them, or none at all. -/
inductive SpellsSide : List Char → List UInt16 → Bool → Prop where
  | none : SpellsSide [] [] false
  | some {text : List Char} {groups : List UInt16} {ended : Bool}
      (spells : SpellsGroups text groups ended) : SpellsSide text groups ended

/-- The texts that spell eight groups: all of them, or those on either side of a run of zeros that
an empty pair of colons stands for. Octets stand at the end only. -/
inductive Spells : List Char → List UInt16 → Prop where
  | full {text : List Char} {groups : List UInt16} {ended : Bool}
      (spells : SpellsGroups text groups ended) (eight : groups.length = 8) : Spells text groups
  | compressed {front back : List Char} {frontGroups backGroups : List UInt16} {ended : Bool}
      (isFront : SpellsSide front frontGroups false) (isBack : SpellsSide back backGroups ended)
      (fewer : frontGroups.length + backGroups.length ≤ 7) :
      Spells (front ++ ':' :: ':' :: back)
        (frontGroups ++ List.replicate (8 - frontGroups.length - backGroups.length) 0 ++ backGroups)

end Ipv6

namespace AddressReader

/-! ## Reading octets -/

theorem char_eq_some_iff {expected : Char} {text rest : List Char} :
    char expected text = some rest ↔ text = expected :: rest := by
  cases text with
  | nil => simp [char]
  | cons c others =>
      simp only [char, beq_iff_eq, List.cons.injEq, Option.ite_none_right_eq_some,
        Option.some.injEq]

theorem number_eq_some_iff {bound value : Nat} {text rest : List Char} :
    number bound text = some (value, rest) ↔
      ∃ run, text = run ++ rest ∧ Decimal.isNumeral run = true ∧ Decimal.value run = value ∧
        value ≤ bound ∧ ∀ c ∈ rest.head?, c.isDigit = false := by
  constructor
  · intro isRead
    simp only [number] at isRead
    split at isRead
    · cases isRead
    · rename_i fits
      cases isRead
      rw [not_or, Nat.not_lt] at fits
      refine ⟨_, List.takeWhile_append_dropWhile.symm, ?_, rfl, fits.2,
        fun c mem => not_of_mem_head?_dropWhile mem⟩
      simp only [Decimal.isNumeral, Bool.and_eq_true, Bool.not_eq_true', List.all_takeWhile]
      exact ⟨by simpa using fits.1, trivial⟩
  · rintro ⟨run, rfl, numeral, rfl, fits, stops⟩
    rcases Decimal.span_digits numeral stops with ⟨taken, dropped⟩
    have notEmpty := Decimal.ne_nil_of_isNumeral numeral
    rw [number, taken, dropped, if_neg]
    simp [notEmpty, fits]

theorem octet_eq_some_iff {octet : UInt8} {text rest : List Char} :
    AddressReader.octet text = some (octet, rest) ↔
      ∃ run, text = run ++ rest ∧ Ipv4.SpellsOctet run octet ∧
        ∀ c ∈ rest.head?, c.isDigit = false := by
  constructor
  · intro isRead
    simp only [AddressReader.octet] at isRead
    split at isRead
    · cases isRead
    · rename_i wellFormed
      rw [not_or, not_and] at wellFormed
      rcases Option.map_eq_some_iff.mp isRead with ⟨⟨value, behind⟩, isNumber, isOctet⟩
      cases isOctet
      rcases number_eq_some_iff.mp isNumber with ⟨run, rfl, numeral, isValue, small, stops⟩
      have taken := (Decimal.span_digits numeral stops).1
      rw [taken] at wellFormed
      refine ⟨run, rfl, ⟨numeral, ?_, ?_⟩, stops⟩
      · intro zero
        have alone := wellFormed.2 zero
        cases run with
        | nil => cases zero
        | cons first others =>
            cases zero
            have noOthers : others = [] := by
              rw [List.length_cons] at alone
              exact List.length_eq_zero_iff.mp (by omega)
            rw [noOthers]
      · rw [isValue, Nat.toUInt8_eq, UInt8.toNat_ofNat', Nat.mod_eq_of_lt (by omega)]
  · rintro ⟨run, rfl, spells, stops⟩
    have taken := (Decimal.span_digits spells.numeral stops).1
    have isNumber : number 255 (run ++ rest) = some (octet.toNat, rest) :=
      number_eq_some_iff.mpr ⟨run, rfl, spells.numeral, spells.value,
        by have := octet.toNat_lt; omega, stops⟩
    rw [AddressReader.octet, taken, if_neg, isNumber]
    · simp
    · have short := spells.length_le
      rintro (long | ⟨zero, long⟩)
      · omega
      · rw [spells.noLeadingZero zero] at long
        simp at long

theorem ipv4_eq_some_iff {address : Ipv4} {text rest : List Char} :
    ipv4 text = some (address, rest) ↔
      ∃ run, text = run ++ rest ∧ Ipv4.Spells run address ∧
        ∀ c ∈ rest.head?, c.isDigit = false := by
  simp only [ipv4, Option.bind_eq_bind, Option.bind_eq_some_iff, Prod.exists, char_eq_some_iff,
    octet_eq_some_iff]
  constructor
  · rintro ⟨first, _, ⟨firstRun, rfl, isFirst, -⟩, _, rfl, second, _,
      ⟨secondRun, rfl, isSecond, -⟩, _, rfl, third, _, ⟨thirdRun, rfl, isThird, -⟩, _, rfl, fourth,
      _, ⟨fourthRun, rfl, isFourth, stops⟩, isAddress⟩
    cases isAddress
    exact ⟨_, by simp, .octets isFirst isSecond isThird isFourth, stops⟩
  · rintro ⟨_, rfl, ⟨isFirst, isSecond, isThird, isFourth⟩, stops⟩
    have dot (behind : List Char) : ∀ c ∈ ('.' :: behind).head?, c.isDigit = false :=
      stops_cons rfl behind
    refine ⟨address.first, _, ⟨_, ?_, isFirst, dot _⟩, _, rfl, address.second, _,
      ⟨_, rfl, isSecond, dot _⟩, _, rfl, address.third, _, ⟨_, rfl, isThird, dot _⟩, _, rfl,
      address.fourth, _, ⟨_, rfl, isFourth, stops⟩, rfl⟩
    simp

/-! ## Reading groups -/

theorem hexValue?_lt {c : Char} {value : Nat} (isHex : hexValue? c = some value) : value < 16 := by
  simp only [hexValue?, Char.le_def, UInt32.le_iff_toNat_le] at isHex
  split_ifs at isHex with digit small capital
  · cases isHex
    have code := Decimal.code_of_isDigit digit
    change c.toNat - 48 < 16
    omega
  · cases isHex
    change 97 ≤ c.toNat ∧ c.toNat ≤ 102 at small
    change c.toNat - 97 + 10 < 16
    omega
  · cases isHex
    change 65 ≤ c.toNat ∧ c.toNat ≤ 70 at capital
    change c.toNat - 65 + 10 < 16
    omega

theorem isHex_of_isDigit {c : Char} (digit : c.isDigit = true) : Ipv6.isHex c = true := by
  simp [Ipv6.isHex, hexValue?, digit]

theorem hexValue_lt (run : List Char) : hexValue run < 16 ^ run.length := by
  -- Behind a number that is read already, each digit makes room for one more.
  have behind (value : Nat) : run.foldl (fun value c => value * 16 + (hexValue? c).getD 0) value <
      (value + 1) * 16 ^ run.length := by
    induction run generalizing value with
    | nil => simp
    | cons c rest ih =>
        have digit : (hexValue? c).getD 0 < 16 := by
          cases isHex : hexValue? c with
          | none => decide
          | some digit => exact hexValue?_lt isHex
        rw [List.foldl_cons, List.length_cons]
        calc _ < (value * 16 + (hexValue? c).getD 0 + 1) * 16 ^ rest.length := ih _
          _ ≤ ((value + 1) * 16) * 16 ^ rest.length := Nat.mul_le_mul_right _ (by omega)
          _ = (value + 1) * 16 ^ (rest.length + 1) := by ring
  simpa [hexValue] using behind 0

theorem group_eq_some_iff {group : UInt16} {text rest : List Char} :
    AddressReader.group text = some (group, rest) ↔
      ∃ run, text = run ++ rest ∧ Ipv6.SpellsGroup run group ∧
        ∀ c ∈ rest.head?, Ipv6.isHex c = false := by
  constructor
  · intro isRead
    simp only [AddressReader.group] at isRead
    split at isRead
    · cases isRead
    · rename_i wellFormed
      cases isRead
      rw [not_or, Nat.not_lt] at wellFormed
      refine ⟨_, List.takeWhile_append_dropWhile.symm, ⟨?_, wellFormed.2, ?_, ?_⟩,
        fun c mem => not_of_mem_head?_dropWhile mem⟩
      · simpa using wellFormed.1
      · intro c mem
        exact List.mem_takeWhile_imp mem
      · have bound := hexValue_lt (text.takeWhile fun c => (hexValue? c).isSome)
        have power := Nat.pow_le_pow_right (n := 16) (by decide) wellFormed.2
        rw [Nat.toUInt16_eq, UInt16.toNat_ofNat', Nat.mod_eq_of_lt (by omega)]
  · rintro ⟨run, rfl, spells, stops⟩
    rcases span_append spells.hex stops with ⟨taken, dropped⟩
    change (run ++ rest).takeWhile (fun c => (hexValue? c).isSome) = run at taken
    change (run ++ rest).dropWhile (fun c => (hexValue? c).isSome) = rest at dropped
    rw [AddressReader.group, taken, dropped, if_neg, spells.value]
    · simp
    · have short := spells.short
      rintro (isEmpty | long)
      · exact spells.notEmpty (List.isEmpty_iff.mp isEmpty)
      · omega

/-- Whether neither octets nor a group can be taken from a text. -/
def NoneAt (text : List Char) : Prop := ∀ c ∈ text.head?, Ipv6.isHex c = false

theorem group_eq_none {text : List Char} (noneAt : NoneAt text) :
    AddressReader.group text = none := by
  by_contra taken
  rcases Option.ne_none_iff_exists'.mp taken with ⟨⟨group, rest⟩, isRead⟩
  rcases group_eq_some_iff.mp isRead with ⟨run, rfl, spells, -⟩
  rcases List.exists_cons_of_ne_nil spells.notEmpty with ⟨first, others, rfl⟩
  have notHex := noneAt first rfl
  simp [spells.hex first List.mem_cons_self] at notHex

/-- Hexadecimal digits that no dot follows are no octets. -/
theorem ipv4_eq_none_of_hex {run rest : List Char} (hex : ∀ c ∈ run, Ipv6.isHex c = true)
    (noneAt : NoneAt rest) (noDot : run = [] ∨ '.' ∉ rest.head?) :
    ipv4 (run ++ rest) = none := by
  by_contra taken
  rcases Option.ne_none_iff_exists'.mp taken with ⟨⟨address, behind⟩, isRead⟩
  rcases ipv4_eq_some_iff.mp isRead with ⟨_, same, ⟨isFirst, -, -, -⟩, -⟩
  -- Both the first octet and the run are all the digits in front of the first other character.
  rename_i first second third fourth
  have firstHex (c : Char) (mem : c ∈ first) : Ipv6.isHex c = true :=
    isHex_of_isDigit (Decimal.isDigit_of_mem isFirst.numeral mem)
  have dot (text : List Char) : NoneAt ('.' :: text) := stops_cons rfl text
  rw [List.append_assoc, List.cons_append] at same
  have sameRun : run = first := by
    rw [← (span_append hex noneAt).1, same, (span_append firstHex (dot _)).1]
  subst sameRun
  rcases noDot with isEmpty | noDot
  · exact Decimal.ne_nil_of_isNumeral isFirst.numeral isEmpty
  · apply noDot
    rw [List.append_cancel_left same]
    rfl

theorem ipv4_eq_none {text : List Char} (noneAt : NoneAt text) : ipv4 text = none := by
  have hex : ∀ c ∈ ([] : List Char), Ipv6.isHex c = true := by simp
  exact ipv4_eq_none_of_hex hex noneAt (Or.inl rfl)

variable {isFirst ended : Bool} {room : Nat} {text behind rest run : List Char}
  {values : List UInt16} {address : Ipv4} {value : UInt16}

theorem groups_of_octets (separated : separator isFirst text = some behind)
    (taken : ipv4 behind = some (address, rest)) (hasRoom : 1 ≤ room) :
    groups isFirst (room + 1) text = (address.toGroups, true, rest) := by
  simp [groups, separated, taken, hasRoom]

theorem groups_of_group (separated : separator isFirst text = some behind)
    (noOctets : room = 0 ∨ ipv4 behind = none)
    (taken : AddressReader.group behind = some (value, rest)) :
    groups isFirst (room + 1) text =
      (value :: (groups false room rest).1, (groups false room rest).2) := by
  have notEmbedded : (if 1 ≤ room then ipv4 behind else none) = none := by
    rcases noOctets with rfl | noOctets
    · rfl
    · rw [noOctets, ite_self]
  simp [groups, separated, taken, notEmbedded]

theorem groups_of_none
    (none : ∀ behind, separator isFirst text = some behind → NoneAt behind) :
    groups isFirst room text = ([], false, text) := by
  cases room with
  | zero => rfl
  | succ room =>
      cases separated : separator isFirst text with
      | none => simp [groups, separated]
      | some behind =>
          have noneAt := none behind separated
          simp [groups, separated, ipv4_eq_none noneAt, group_eq_none noneAt]

/-- The groups that are taken are spelled by the text behind the separator, up to what is left. -/
theorem spells_of_groups (isRead : groups isFirst room text = (values, ended, rest)) :
    (values = [] ∧ ended = false ∧ rest = text) ∨
      ∃ run, separator isFirst text = some (run ++ rest) ∧
        Ipv6.SpellsGroups run values ended ∧ values.length ≤ room := by
  induction room generalizing isFirst text values ended rest with
  | zero =>
      cases isRead
      exact Or.inl ⟨rfl, rfl, rfl⟩
  | succ room ih =>
      simp only [groups] at isRead
      split at isRead
      · rename_i octets behind embedded
        cases isRead
        split at embedded
        · rename_i hasRoom
          rcases Option.bind_eq_some_iff.mp embedded with ⟨_, separated, taken⟩
          rcases ipv4_eq_some_iff.mp taken with ⟨run, rfl, spells, -⟩
          refine Or.inr ⟨run, separated, .octets spells, ?_⟩
          rw [Ipv4.toGroups, List.length_cons, List.length_singleton]
          omega
        · cases embedded
      · split at isRead
        · cases isRead
          exact Or.inl ⟨rfl, rfl, rfl⟩
        · rename_i value behind taken
          rcases Option.bind_eq_some_iff.mp taken with ⟨_, separated, isGroup⟩
          rcases group_eq_some_iff.mp isGroup with ⟨run, rfl, spells, -⟩
          cases isRead
          rcases ih (rfl : groups false room behind = (_, _, _)) with
            ⟨noMore, notEnded, same⟩ | ⟨others, colon, spellsOthers, fits⟩
          · refine Or.inr ⟨run, ?_, ?_, ?_⟩
            · rw [same, separated]
            · rw [noMore, notEnded]
              exact .last spells
            · rw [noMore, List.length_singleton]
              omega
          · have parted : behind = ':' :: (others ++ (groups false room behind).2.2) :=
              char_eq_some_iff.mp colon
            refine Or.inr ⟨run ++ ':' :: others, ?_, .more spells spellsOthers, ?_⟩
            · rw [separated, List.append_assoc, List.cons_append, ← parted]
            · rw [List.length_cons]
              omega

/-- Whether a text cannot be taken for more of the groups in front of it. -/
structure Stops (text : List Char) : Prop where
  noneAt : NoneAt text
  noDot : '.' ∉ text.head?
  noneBehind : ∀ behind, char ':' text = some behind → NoneAt behind

/-- Groups that a text spells are taken whole. -/
theorem groups_of_spells (spells : Ipv6.SpellsGroups run values ended)
    (fits : values.length ≤ room) (stops : Stops rest)
    (separated : separator isFirst text = some (run ++ rest)) :
    groups isFirst room text = (values, ended, rest) := by
  induction spells generalizing isFirst room text with
  | @last run group spells =>
      rcases Nat.exists_eq_add_of_le' fits with ⟨more, rfl⟩
      have noOctets := ipv4_eq_none_of_hex spells.hex stops.noneAt (Or.inr stops.noDot)
      have taken := group_eq_some_iff.mpr ⟨run, rfl, spells, stops.noneAt⟩
      have noMore : groups false more rest = ([], false, rest) := groups_of_none stops.noneBehind
      rw [List.length_singleton, groups_of_group separated (Or.inr noOctets) taken, noMore]
  | @octets run address spells =>
      rcases Nat.exists_eq_add_of_le' fits with ⟨more, rfl⟩
      have taken : ipv4 (run ++ rest) = some (address, rest) := by
        refine ipv4_eq_some_iff.mpr ⟨run, rfl, spells, ?_⟩
        intro c mem
        by_contra digit
        have notHex := stops.noneAt c mem
        rw [isHex_of_isDigit (by simpa using digit)] at notHex
        cases notHex
      exact groups_of_octets separated taken (Nat.le_add_left 1 more)
  | @more run others group values ended spells spellsOthers ih =>
      rcases Nat.exists_eq_add_of_le' fits with ⟨more, rfl⟩
      rw [List.append_assoc, List.cons_append] at separated
      have colon : NoneAt (':' :: (others ++ rest)) := stops_cons rfl _
      have noOctets := ipv4_eq_none_of_hex spells.hex colon (Or.inr (by simp))
      have taken := group_eq_some_iff.mpr ⟨run, rfl, spells, colon⟩
      have behind : separator false (':' :: (others ++ rest)) = some (others ++ rest) := rfl
      have isMore := ih (Nat.le_add_left values.length more) behind
      rw [List.length_cons, ← Nat.add_assoc, groups_of_group separated (Or.inr noOctets) taken,
        isMore]

/-! ## Reading eight groups -/

theorem ofGroups?_eq_some_iff {values : List UInt16} {address : Ipv6} :
    ofGroups? values = some address ↔ values = address.groups := by
  rw [ofGroups?]
  constructor
  · intro isAddress
    split at isAddress
    · cases isAddress
      rfl
    · cases isAddress
  · rintro rfl
    rw [dif_pos address.eight]

theorem side_of_groups (isRead : groups true room text = (values, ended, rest)) :
    ∃ run, text = run ++ rest ∧ Ipv6.SpellsSide run values ended ∧ values.length ≤ room := by
  rcases spells_of_groups isRead with ⟨rfl, rfl, rfl⟩ | ⟨run, separated, spells, fits⟩
  · exact ⟨[], rfl, .none, Nat.zero_le room⟩
  · exact ⟨run, Option.some.inj separated, .some spells, fits⟩

theorem groups_of_side (side : Ipv6.SpellsSide run values ended) (fits : values.length ≤ room)
    (stops : Stops rest) : groups true room (run ++ rest) = (values, ended, rest) := by
  cases side with
  | none =>
      apply groups_of_none
      rintro _ ⟨⟩
      exact stops.noneAt
  | some spells => exact groups_of_spells spells fits stops rfl

/-- An address that is taken is one that the text in front of the rest spells. -/
theorem exists_of_ipv6 {address : Ipv6} (isRead : ipv6 text = some (address, rest)) :
    ∃ run, text = run ++ rest ∧ Ipv6.Spells run address.groups := by
  simp only [ipv6] at isRead
  generalize isFront : groups true 8 text = front at isRead
  rcases front with ⟨front, ended, behind⟩
  rcases side_of_groups isFront with ⟨frontRun, rfl, frontSide, frontFits⟩
  simp only at isRead
  split at isRead
  · rename_i eight
    rcases Option.bind_eq_some_iff.mp isRead with ⟨_, isAddress, isTaken⟩
    cases isTaken
    cases frontSide with
    | none => cases eight
    | some spells =>
        have full := Ipv6.Spells.full spells eight
        rw [ofGroups?_eq_some_iff.mp isAddress] at full
        exact ⟨frontRun, rfl, full⟩
  · rename_i fewer
    split at isRead
    · cases isRead
    · rename_i notEnded
      rw [Bool.not_eq_true] at notEnded
      subst notEnded
      simp only [Option.bind_eq_bind, Option.bind_eq_some_iff, char_eq_some_iff] at isRead
      rcases isRead with ⟨_, rfl, behind, rfl, _, isAddress, isTaken⟩
      cases isTaken
      rcases side_of_groups (rfl : groups true (7 - front.length) behind = (_, _, _)) with
        ⟨backRun, isBehind, backSide, backFits⟩
      have compressed := Ipv6.Spells.compressed frontSide backSide (by omega)
      rw [ofGroups?_eq_some_iff.mp isAddress] at compressed
      refine ⟨_, ?_, compressed⟩
      rw [List.append_assoc, List.cons_append, List.cons_append, ← isBehind]

theorem stops_colons (behind : List Char) : Stops (':' :: ':' :: behind) where
  noneAt := stops_cons rfl _
  noDot := by simp
  noneBehind := by
    rintro _ ⟨⟩
    exact stops_cons rfl behind

/-- An address that a text spells is taken from it, whatever stands behind unless it could be taken
for more. -/
theorem ipv6_of_spells {address : Ipv6} (spells : Ipv6.Spells run address.groups)
    (stops : Stops rest) : ipv6 (run ++ rest) = some (address, rest) := by
  generalize isGroups : address.groups = values at spells
  cases spells with
  | full spells eight =>
      have isFront := groups_of_side (.some spells) (Nat.le_of_eq eight) stops
      have isAddress := ofGroups?_eq_some_iff.mpr isGroups.symm
      simp [ipv6, isFront, eight, isAddress]
  | @compressed front back frontGroups backGroups ended frontSide backSide fewer =>
      have isFront := groups_of_side frontSide (by omega : frontGroups.length ≤ 8)
        (stops_colons (back ++ rest))
      have isBack := groups_of_side backSide
        (by omega : backGroups.length ≤ 7 - frontGroups.length) stops
      have isAddress := ofGroups?_eq_some_iff.mpr isGroups.symm
      have notFull : frontGroups.length ≠ 8 := by omega
      rw [List.append_assoc, List.cons_append, List.cons_append, ipv6, isFront]
      have colon (text : List Char) : char ':' (':' :: text) = some text := rfl
      simp only [notFull, if_false, Bool.false_eq_true, Option.bind_eq_bind, colon,
        Option.bind_some, isBack, isAddress]
      rfl

end AddressReader

end RangeServer
