import Mathlib
import RangeServer.Json.Parser
import RangeServer.Json.Printer

/-!
# Reading printed JSON

What the printer writes, the reader reads as the value that was printed. A value is read off the
front of a longer text, so all is said of a printed value with some rest behind it; the rest has to
be of the kind that stands behind values, since a numeral would go on into digits. Texts are taken
character by character, whatever escape stands for the character. Arrays and objects are read item
by item, and the induction is on the depth to which they may nest, as in the reader.

The printer writes a numeral as it was read. Only numerals that keep to the grammar are read again,
and those that stand for natural numbers do.
-/

namespace RangeServer

namespace Json

/-! ## Texts -/

theorem hexValue?_hexDigit : ∀ value < 16, hexValue? (hexDigit value) = some value := by decide

theorem escapedPoint_control {c : Char} (control : c.toNat < 0x20) (rest : List Char) :
    escapedPoint ('0' :: '0' :: hexDigit (c.toNat / 16) :: hexDigit (c.toNat % 16) :: rest) =
      some (c, rest) := by
  have zero : hexValue? '0' = some 0 := by decide
  have high := hexValue?_hexDigit (c.toNat / 16) (by omega)
  have low := hexValue?_hexDigit (c.toNat % 16) (by omega)
  have unit : hexUnit ('0' :: '0' :: hexDigit (c.toNat / 16) :: hexDigit (c.toNat % 16) :: rest) =
      some (c.toNat, rest) := by
    have digits : ((0 * 16 + 0) * 16 + c.toNat / 16) * 16 + c.toNat % 16 = c.toNat := by omega
    simp only [hexUnit, zero, high, low, Option.bind_eq_bind, Option.bind_some, digits]
    rfl
  have notLow : ¬(0xDC00 ≤ c.toNat ∧ c.toNat ≤ 0xDFFF) := by omega
  have notHigh : ¬(0xD800 ≤ c.toNat ∧ c.toNat ≤ 0xDBFF) := by omega
  simp only [escapedPoint, unit, Option.bind_eq_bind, Option.bind_some, if_neg notLow,
    if_neg notHigh, Char.ofNat_toNat]
  rfl

/-- A character stands in a text as it is, or as a backslash and a code for it. -/
theorem escape_eq (c : Char) :
    (escape c = [c] ∧ c ≠ '"' ∧ c ≠ '\\' ∧ ¬c.toNat < 0x20) ∨
      ∃ code, escape c = '\\' :: code ∧ ∀ rest, escaped (code ++ rest) = some (c, rest) := by
  unfold escape
  split_ifs with quote backslash backspace tab newline formFeed carriageReturn control
  · exact Or.inr ⟨_, rfl, fun rest => by rw [quote]; rfl⟩
  · exact Or.inr ⟨_, rfl, fun rest => by rw [backslash]; rfl⟩
  · exact Or.inr ⟨_, rfl, fun rest => by rw [backspace]; rfl⟩
  · exact Or.inr ⟨_, rfl, fun rest => by rw [tab]; rfl⟩
  · exact Or.inr ⟨_, rfl, fun rest => by rw [newline]; rfl⟩
  · exact Or.inr ⟨_, rfl, fun rest => by rw [formFeed]; rfl⟩
  · exact Or.inr ⟨_, rfl, fun rest => by rw [carriageReturn]; rfl⟩
  · exact Or.inr ⟨_, rfl, escapedPoint_control control⟩
  · exact Or.inl ⟨rfl, quote, backslash, control⟩

/-- What stands for a character in a text is read as the character. -/
theorem textBody_escape (fuel : Nat) (c : Char) (rest : List Char) :
    textBody (fuel + 1) (escape c ++ rest) =
      (textBody fuel rest).map fun (more, rest) => (c :: more, rest) := by
  rcases escape_eq c with ⟨plain, notQuote, notBackslash, notControl⟩ | ⟨code, isCode, isRead⟩
  · rw [plain, List.singleton_append, textBody, if_neg notQuote, if_neg notBackslash,
      if_neg notControl]
    cases textBody fuel rest <;> rfl
  · rw [isCode, List.cons_append, textBody, if_neg (by decide), if_pos rfl, isRead]
    simp only [Option.bind_eq_bind, Option.bind_some]
    cases textBody fuel rest <;> rfl

theorem textBody_quote (characters rest : List Char) {fuel : Nat}
    (enough : characters.length < fuel) :
    textBody fuel (characters.flatMap escape ++ '"' :: rest) = some (characters, rest) := by
  induction characters generalizing fuel with
  | nil =>
      rcases fuel with _ | fuel
      · cases enough
      · rw [List.flatMap_nil, List.nil_append, textBody, if_pos rfl]
  | cons c others ih =>
      rcases fuel with _ | fuel
      · cases enough
      · rw [List.flatMap_cons, List.append_assoc, textBody_escape,
          ih (Nat.lt_of_succ_lt_succ enough)]
        rfl

theorem escape_ne_nil (c : Char) : escape c ≠ [] := by
  rcases escape_eq c with ⟨plain, -⟩ | ⟨code, isCode, -⟩
  · simp [plain]
  · simp [isCode]

theorem length_le_flatMap {Item : Type} {text : Item → List Char}
    (notEmpty : ∀ item, text item ≠ []) (items : List Item) :
    items.length ≤ (items.flatMap text).length := by
  induction items with
  | nil => exact Nat.le_refl _
  | cons item others ih =>
      have one := List.length_pos_of_ne_nil (notEmpty item)
      simp only [List.length_cons, List.flatMap_cons, List.length_append]
      omega

/-- A text between quotes is read as the text. -/
theorem textAfterQuote_quote (text : String) (rest : List Char) :
    textAfterQuote (text.toList.flatMap escape ++ '"' :: rest) = some (text, rest) := by
  have enough : text.toList.length <
      (text.toList.flatMap escape ++ '"' :: rest).length + 1 := by
    have longer := length_le_flatMap escape_ne_nil text.toList
    simp only [List.length_append, List.length_cons]
    omega
  simp only [textAfterQuote, textBody_quote _ _ enough, Option.map_some, String.ofList_toList]

/-! ## Numerals -/

/-- What stands behind a value: nothing, a comma or a closing bracket. -/
def Ends (rest : List Char) : Prop := ∀ c ∈ rest.head?, c = ',' ∨ c = ']' ∨ c = '\x7d'

end Json

namespace Numeral

/-- Whether a numeral keeps to the grammar: digits throughout, and no zero in front of more of
them. -/
structure WellFormed (numeral : Numeral) : Prop where
  whole : Decimal.isNumeral numeral.whole = true
  noLeadingZero : numeral.whole.head? = some '0' → numeral.whole = ['0']
  fraction : ∀ digits ∈ numeral.fraction, Decimal.isNumeral digits = true
  exponent : ∀ exponent ∈ numeral.exponent, Decimal.isNumeral exponent.2 = true

end Numeral

namespace Json

theorem someDigits_append {run rest : List Char} (numeral : Decimal.isNumeral run = true)
    (stops : ∀ c ∈ rest.head?, c.isDigit = false) :
    someDigits (run ++ rest) = some (run, rest) := by
  have notEmpty := Decimal.ne_nil_of_isNumeral numeral
  rcases Decimal.span_digits numeral stops with ⟨taken, dropped⟩
  simp [someDigits, taken, dropped, notEmpty]

theorem wholeDigits_append {numeral : Numeral} (wellFormed : numeral.WellFormed)
    {rest : List Char} (stops : ∀ c ∈ rest.head?, c.isDigit = false) :
    wholeDigits (numeral.whole ++ rest) = some (numeral.whole, rest) := by
  rcases Decimal.span_digits wellFormed.whole stops with ⟨taken, dropped⟩
  simp only [wholeDigits, taken, dropped]
  split
  · rename_i isNil
    exact absurd isNil (Decimal.ne_nil_of_isNumeral wellFormed.whole)
  · rename_i second others isLong
    have alone := wellFormed.noLeadingZero (by rw [isLong]; rfl)
    rw [isLong] at alone
    cases alone
  · rfl

/-- The point and the digits behind it. -/
def fractionText (fraction : Option (List Char)) : List Char :=
  fraction.elim [] fun digits => '.' :: digits

/-- The exponent with its letter and its sign. -/
def exponentText (exponent : Option (Bool × List Char)) : List Char :=
  exponent.elim [] fun (negative, digits) => 'e' :: ((if negative then ['-'] else []) ++ digits)

theorem numeralText_eq (numeral : Numeral) :
    numeralText numeral = (if numeral.negative then ['-'] else []) ++
      (numeral.whole ++ (fractionText numeral.fraction ++ exponentText numeral.exponent)) := by
  rcases numeral with ⟨negative, whole, _ | fraction, _ | exponent⟩ <;>
    simp [numeralText, fractionText, exponentText]

theorem fractionPart_append {fraction : Option (List Char)}
    (digits : ∀ digits ∈ fraction, Decimal.isNumeral digits = true) {rest : List Char}
    (stops : ∀ c ∈ rest.head?, c.isDigit = false ∧ c ≠ '.') :
    fractionPart (fractionText fraction ++ rest) = some (fraction, rest) := by
  cases fraction with
  | none =>
      simp only [fractionText, Option.elim_none, List.nil_append]
      unfold fractionPart
      split
      · exact absurd rfl (stops '.' rfl).2
      · rfl
  | some run =>
      have isRead := someDigits_append (digits run rfl) fun c mem => (stops c mem).1
      simp only [fractionText, Option.elim_some, List.cons_append, fractionPart, isRead]
      rfl

theorem exponentSign_append {run : List Char} (numeral : Decimal.isNumeral run = true)
    (negative : Bool) (rest : List Char) :
    exponentSign ((if negative then ['-'] else []) ++ run ++ rest) = (negative, run ++ rest) := by
  cases negative with
  | true => rfl
  | false =>
      -- The sign that is left out must not be found among the digits.
      rcases run with _ | ⟨first, others⟩
      · exact absurd rfl (Decimal.ne_nil_of_isNumeral numeral)
      · have digit := Decimal.isDigit_of_mem numeral List.mem_cons_self
        have notMinus : first ≠ '-' := Decimal.ne_of_isDigit digit rfl
        have notPlus : first ≠ '+' := Decimal.ne_of_isDigit digit rfl
        simp [exponentSign, notMinus, notPlus]

theorem exponentPart_append {exponent : Option (Bool × List Char)}
    (digits : ∀ written ∈ exponent, Decimal.isNumeral written.2 = true) {rest : List Char}
    (stops : ∀ c ∈ rest.head?, c.isDigit = false ∧ c ≠ 'e' ∧ c ≠ 'E') :
    exponentPart (exponentText exponent ++ rest) = some (exponent, rest) := by
  cases exponent with
  | none =>
      simp only [exponentText, Option.elim_none, List.nil_append]
      cases rest with
      | nil => rfl
      | cons c others =>
          have notMark := stops c rfl
          simp [exponentPart, notMark.2.1, notMark.2.2]
  | some exponent =>
      rcases exponent with ⟨negative, run⟩
      have numeral : Decimal.isNumeral run = true := digits (negative, run) rfl
      have isRead := someDigits_append numeral fun c mem => (stops c mem).1
      have sign := exponentSign_append numeral negative rest
      simp only [exponentText, Option.elim_some, List.cons_append, exponentPart]
      simp only [true_or, if_true, sign, isRead]
      rfl

theorem Ends.stops {rest : List Char} (ends : Ends rest) :
    ∀ c ∈ rest.head?, c.isDigit = false ∧ c ≠ '.' ∧ c ≠ 'e' ∧ c ≠ 'E' := by
  intro c mem
  rcases ends c mem with rfl | rfl | rfl <;> decide

/-- A numeral is read without its sign. -/
theorem unsigned_append {numeral : Numeral} (wellFormed : numeral.WellFormed) {rest : List Char}
    (ends : Ends rest) :
    unsigned numeral.negative (numeral.whole ++
      (fractionText numeral.fraction ++ (exponentText numeral.exponent ++ rest))) =
        some (.number numeral, rest) := by
  have stops := ends.stops
  have behindFraction : ∀ c ∈ (exponentText numeral.exponent ++ rest).head?,
      c.isDigit = false ∧ c ≠ '.' := by
    cases numeral.exponent with
    | none => exact fun c mem => ⟨(stops c mem).1, (stops c mem).2.1⟩
    | some exponent =>
        rintro _ ⟨⟩
        decide
  have behindWhole : ∀ c ∈ (fractionText numeral.fraction ++
      (exponentText numeral.exponent ++ rest)).head?, c.isDigit = false := by
    cases numeral.fraction with
    | none => exact fun c mem => (behindFraction c mem).1
    | some digits =>
        rintro _ ⟨⟩
        decide
  have whole := wholeDigits_append wellFormed behindWhole
  have fraction := fractionPart_append wellFormed.fraction behindFraction
  have exponent := exponentPart_append wellFormed.exponent fun c mem =>
    ⟨(stops c mem).1, (stops c mem).2.2⟩
  simp only [unsigned, whole, fraction, exponent, Option.bind_eq_bind, Option.bind_some]
  rfl

/-! ## Values -/

/-- Whether the numerals of a value keep to the grammar, and arrays and objects nest no deeper than
they may. -/
def Fits : Nat → Json → Prop
  | _, .null => True
  | _, .boolean _ => True
  | _, .number numeral => numeral.WellFormed
  | _, .string _ => True
  | 0, .array _ => False
  | 0, .object _ => False
  | depth + 1, .array items => ∀ item ∈ items, Fits depth item
  | depth + 1, .object fields => ∀ field ∈ fields, Fits depth field.2

theorem isSpace_of_isDigit {c : Char} (digit : c.isDigit = true) : isSpace c = false := by
  have other (mark : Char) (noDigit : mark.isDigit = false) : c ≠ mark :=
    Decimal.ne_of_isDigit digit noDigit
  simp [isSpace, other ' ' rfl, other '\t' rfl, other '\n' rfl, other '\r' rfl]

theorem value_of_isDigit (depth : Nat) {first : Char} (digit : first.isDigit = true)
    (rest : List Char) : value depth (first :: rest) = unsigned false (first :: rest) := by
  have other (mark : Char) (noDigit : mark.isDigit = false) : first ≠ mark :=
    Decimal.ne_of_isDigit digit noDigit
  rw [value.eq_def]
  simp [other '"' rfl, other '-' rfl, other 'n' rfl, other 't' rfl, other 'f' rfl,
    other '[' rfl, other '\x7b' rfl]

theorem exists_whole {numeral : Numeral} (wellFormed : numeral.WellFormed) :
    ∃ first others, numeral.whole = first :: others ∧ first.isDigit = true := by
  have isNumeral := wellFormed.whole
  cases digits : numeral.whole with
  | nil => exact absurd digits (Decimal.ne_nil_of_isNumeral isNumeral)
  | cons first others =>
      rw [digits] at isNumeral
      exact ⟨first, others, rfl, Decimal.isDigit_of_mem isNumeral List.mem_cons_self⟩

theorem value_numeral {numeral : Numeral} (wellFormed : numeral.WellFormed) (depth : Nat)
    {rest : List Char} (ends : Ends rest) :
    value depth (numeralText numeral ++ rest) = some (.number numeral, rest) := by
  have isRead := unsigned_append wellFormed ends
  rw [numeralText_eq]
  cases negative : numeral.negative with
  | true =>
      rw [negative] at isRead
      simpa [value] using isRead
  | false =>
      rw [negative] at isRead
      rcases exists_whole wellFormed with ⟨first, others, whole, digit⟩
      rw [whole, List.cons_append] at isRead
      simpa [whole, value_of_isDigit depth digit] using isRead

/-- A printed value starts with a character that neither is a blank nor closes an array. -/
theorem print_opens {depth : Nat} {json : Json} (fits : Fits depth json) :
    ∃ first rest, print json = first :: rest ∧ isSpace first = false ∧ first ≠ ']' := by
  cases json with
  | null => exact ⟨_, _, rfl, by decide⟩
  | boolean value => cases value <;> exact ⟨_, _, rfl, by decide⟩
  | string value => exact ⟨_, _, rfl, by decide⟩
  | array items => exact ⟨_, _, rfl, by decide⟩
  | object fields => exact ⟨_, _, rfl, by decide⟩
  | number numeral =>
      rw [print, numeralText_eq]
      cases numeral.negative with
      | true => exact ⟨_, _, rfl, by decide⟩
      | false =>
          rcases exists_whole (by simpa [Fits] using fits) with ⟨first, others, whole, digit⟩
          rw [whole]
          exact ⟨first, _, rfl, isSpace_of_isDigit digit, Decimal.ne_of_isDigit digit rfl⟩

theorem skipSpace_of_opens {first : Char} (notSpace : isSpace first = false) (rest : List Char) :
    skipSpace (first :: rest) = first :: rest := by
  simp [skipSpace, notSpace]

theorem skipSpace_print {depth : Nat} {json : Json} (fits : Fits depth json) (rest : List Char) :
    skipSpace (print json ++ rest) = print json ++ rest := by
  rcases print_opens fits with ⟨first, others, opens, notSpace, -⟩
  rw [opens, List.cons_append, skipSpace_of_opens notSpace]

/-! ## Arrays and objects -/

theorem printItems_cons (item : Json) (items : List Json) :
    printItems (item :: items) = print item ++ items.flatMap fun next => ',' :: print next := by
  induction items generalizing item with
  | nil => simp [printItems]
  | cons next rest ih => simp [printItems, ih]

/-- A field with its name between quotes. -/
def fieldText (field : String × Json) : List Char := quote field.1 ++ ':' :: print field.2

theorem printFields_cons (field : String × Json) (fields : List (String × Json)) :
    printFields (field :: fields) =
      fieldText field ++ fields.flatMap fun next => ',' :: fieldText next := by
  induction fields generalizing field with
  | nil => simp [printFields, fieldText]
  | cons next rest ih => simp [printFields, fieldText, ih]

theorem ends_flatMap {Item : Type} (text : Item → List Char) (items : List Item) {close : Char}
    (closes : close = ']' ∨ close = '\x7d') (rest : List Char) :
    Ends ((items.flatMap fun next => ',' :: text next) ++ close :: rest) := by
  cases items with
  | nil =>
      rintro _ ⟨⟩
      exact Or.inr closes
  | cons next others =>
      rintro _ ⟨⟩
      exact Or.inl rfl

/-- Whether a reader of values reads a value that fits a depth, whatever stands behind it. -/
def Reads (item : List Char → Option (Json × List Char)) (depth : Nat) : Prop :=
  ∀ json, Fits depth json → ∀ rest, Ends rest → item (print json ++ rest) = some (json, rest)

variable {item : List Char → Option (Json × List Char)} {depth : Nat}

theorem Reads.moreItems (reads : Reads item depth) {items : List Json}
    (fits : ∀ next ∈ items, Fits depth next) {fuel : Nat} (enough : items.length < fuel)
    (rest : List Char) :
    Json.moreItems item fuel ((items.flatMap fun next => ',' :: print next) ++ ']' :: rest) =
      some (items, rest) := by
  induction items generalizing fuel with
  | nil =>
      rcases fuel with _ | fuel
      · cases enough
      · simp [Json.moreItems, skipSpace, isSpace]
  | cons next others ih =>
      rcases fuel with _ | fuel
      · cases enough
      · rcases List.forall_mem_cons.mp fits with ⟨nextFits, othersFit⟩
        have first := reads next nextFits _ (ends_flatMap print others (Or.inl rfl) rest)
        have more := ih othersFit (Nat.lt_of_succ_lt_succ enough)
        have comma : isSpace ',' = false := by decide
        simp only [List.flatMap_cons, List.cons_append, List.append_assoc, Json.moreItems,
          skipSpace_of_opens comma, skipSpace_print nextFits, first, more, Option.bind_eq_bind,
          Option.bind_some]
        rfl

theorem Reads.field (reads : Reads item depth) {field : String × Json}
    (fits : Fits depth field.2) {rest : List Char} (ends : Ends rest) :
    Json.field item (fieldText field ++ rest) = some (field, rest) := by
  have colon : isSpace ':' = false := by decide
  have name := textAfterQuote_quote field.1 (':' :: (print field.2 ++ rest))
  have isRead := reads field.2 fits rest ends
  simp only [fieldText, quote, List.cons_append, List.append_assoc, List.nil_append, Json.field,
    name, Option.bind_eq_bind, Option.bind_some, skipSpace_of_opens colon, skipSpace_print fits,
    isRead]
  rfl

theorem Reads.moreFields (reads : Reads item depth) {fields : List (String × Json)}
    (fits : ∀ next ∈ fields, Fits depth next.2) {fuel : Nat} (enough : fields.length < fuel)
    (rest : List Char) :
    Json.moreFields item fuel
        ((fields.flatMap fun next => ',' :: fieldText next) ++ '\x7d' :: rest) =
      some (fields, rest) := by
  induction fields generalizing fuel with
  | nil =>
      rcases fuel with _ | fuel
      · cases enough
      · simp [Json.moreFields, skipSpace, isSpace]
  | cons next others ih =>
      rcases fuel with _ | fuel
      · cases enough
      · rcases List.forall_mem_cons.mp fits with ⟨nextFits, othersFit⟩
        have first := reads.field nextFits (ends_flatMap fieldText others (Or.inr rfl) rest)
        have more := ih othersFit (Nat.lt_of_succ_lt_succ enough)
        have comma : isSpace ',' = false := by decide
        have opens (behind : List Char) :
            skipSpace (fieldText next ++ behind) = fieldText next ++ behind :=
          skipSpace_of_opens (by decide) _
        simp only [List.flatMap_cons, List.cons_append, List.append_assoc, Json.moreFields,
          skipSpace_of_opens comma, opens, first, more, Option.bind_eq_bind, Option.bind_some]
        rfl

theorem enough_fuel {Item : Type} (text : Item → List Char) (items : List Item) (close : Char)
    (rest : List Char) :
    items.length < ((items.flatMap fun next => ',' :: text next) ++ close :: rest).length + 1 := by
  have longer := length_le_flatMap (fun item => List.cons_ne_nil ',' (text item)) items
  simp only [List.length_append, List.length_cons]
  omega

theorem Reads.arrayBody (reads : Reads item depth) {items : List Json}
    (fits : ∀ next ∈ items, Fits depth next) (rest : List Char) :
    Json.arrayBody item (printItems items ++ ']' :: rest) = some (.array items, rest) := by
  cases items with
  | nil =>
      have bracket : isSpace ']' = false := by decide
      simp [printItems, Json.arrayBody, skipSpace_of_opens bracket]
  | cons first others =>
      rcases List.forall_mem_cons.mp fits with ⟨firstFits, othersFit⟩
      rcases print_opens firstFits with ⟨opening, inner, opens, notSpace, notBracket⟩
      have isRead := reads first firstFits _ (ends_flatMap print others (Or.inl rfl) rest)
      have more := reads.moreItems othersFit (enough_fuel print others ']' rest) rest
      rw [printItems_cons, List.append_assoc, Json.arrayBody, skipSpace_print firstFits]
      rw [opens, List.cons_append] at isRead ⊢
      split
      · rename_i same
        exact absurd (List.cons.inj same).1 notBracket
      · simp only [isRead, more, Option.bind_eq_bind, Option.bind_some]
        rfl

theorem Reads.objectBody (reads : Reads item depth) {fields : List (String × Json)}
    (fits : ∀ next ∈ fields, Fits depth next.2) (rest : List Char) :
    Json.objectBody item (printFields fields ++ '\x7d' :: rest) = some (.object fields, rest) := by
  cases fields with
  | nil =>
      have brace : isSpace '\x7d' = false := by decide
      simp [printFields, Json.objectBody, skipSpace_of_opens brace]
  | cons first others =>
      rcases List.forall_mem_cons.mp fits with ⟨firstFits, othersFit⟩
      have isRead := reads.field firstFits (ends_flatMap fieldText others (Or.inr rfl) rest)
      have more := reads.moreFields othersFit (enough_fuel fieldText others '\x7d' rest) rest
      have quoteMark : isSpace '"' = false := by decide
      obtain ⟨inner, opens⟩ : ∃ inner, fieldText first = '"' :: inner := ⟨_, rfl⟩
      rw [printFields_cons, List.append_assoc, Json.objectBody]
      rw [opens, List.cons_append] at isRead ⊢
      rw [skipSpace_of_opens quoteMark]
      split
      · rename_i same
        exact absurd (List.cons.inj same).1 (by decide)
      · simp only [isRead, more, Option.bind_eq_bind, Option.bind_some]
        rfl

/-- A value that fits is read from its print, and what stands behind it is left. -/
theorem reads_value (depth : Nat) : Reads (value depth) depth := by
  induction depth using Nat.strong_induction_on with
  | h depth ih =>
      intro json fits rest ends
      cases json with
      | null => simp [print, value, word]
      | boolean truth => cases truth <;> simp [print, value, word]
      | number numeral => exact value_numeral (by simpa [Fits] using fits) depth ends
      | string text =>
          have isRead := textAfterQuote_quote text rest
          simp [print, quote, value, isRead]
      | array items =>
          cases depth with
          | zero => exact fits.elim
          | succ depth =>
              have isRead := (ih depth (Nat.lt_succ_self depth)).arrayBody fits rest
              simpa [print, value] using isRead
      | object fields =>
          cases depth with
          | zero => exact fits.elim
          | succ depth =>
              have isRead := (ih depth (Nat.lt_succ_self depth)).objectBody fits rest
              simpa [print, value] using isRead

/-- The text of a value is read as the value. -/
theorem parse?_toText {json : Json} (fits : Fits maxDepth json) :
    parse? (toText json) = some json := by
  have noRest : Ends [] := by simp [Ends]
  have isRead := reads_value maxDepth json fits [] noRest
  have opens := skipSpace_print fits []
  rw [List.append_nil] at isRead opens
  simp only [parse?, toText, String.toList_ofList, opens, isRead, Option.bind_eq_bind,
    Option.bind_some]
  rfl

/-! ## Natural numbers -/

/-- The digits of a number start with a zero only if the number is zero. -/
theorem head?_digits {number : Nat} (zero : (Decimal.digits number).head? = some '0') :
    number = 0 := by
  induction number using Nat.strong_induction_on with
  | h number ih =>
      rw [Decimal.digits, Nat.toDigits_eq_if (by decide)] at zero
      split at zero
      · rename_i small
        have digits : ∀ value < 10, Nat.digitChar value = '0' → value = 0 := by decide
        exact digits number small (by simpa using zero)
      · rename_i large
        have notEmpty : Nat.toDigits 10 (number / 10) ≠ [] :=
          Decimal.ne_nil_of_isNumeral (Decimal.isNumeral_digits (number / 10))
        rw [List.head?_append_of_ne_nil _ notEmpty] at zero
        have none := ih (number / 10) (by omega) zero
        omega

theorem wellFormed_ofNat (number : Nat) :
    (⟨false, Decimal.digits number, none, none⟩ : Numeral).WellFormed where
  whole := Decimal.isNumeral_digits number
  noLeadingZero := by
    intro zero
    rw [head?_digits zero]
    rfl
  fraction := by simp
  exponent := by simp

theorem fits_ofNat (depth number : Nat) : Fits depth (ofNat number) := by
  simpa [Fits, ofNat] using wellFormed_ofNat number

theorem fits_ofOption (depth : Nat) (text : Option String) : Fits depth (ofOption text) := by
  cases text <;> simp [Fits, ofOption]

end Json

end RangeServer
