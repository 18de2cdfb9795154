import Mathlib
import RangeServer.Range.Header

/-!
# Range headers read exactly

What a range header asks for is stated here without words and without a reader: a grammar says
which texts spell a range, the digits of an offset denote a number of any size, and one rule on
these numbers says what the range asks of content of a given length. `RangeOutcome.ofHeader_exact`
shows that reading with offsets held at the largest word always ends in the outcome of that rule.

Offsets are held digit by digit, so the first fact is that this agrees with holding the number that
all digits denote. The length of content is a word itself; an offset that was held is therefore at
or past the end, where its exact size no longer matters.
-/

namespace RangeServer

namespace RangeSpec

/-! ## Offsets -/

theorem pushDigit_min (offset : Nat) (digit : Char) :
    pushDigit (min offset maxWord) digit =
      min (10 * offset + Decimal.digitValue digit) maxWord := by
  unfold pushDigit
  omega

theorem foldl_pushDigit_min (run : List Char) (offset : Nat) :
    run.foldl pushDigit (min offset maxWord) = min (Nat.ofDigitChars 10 run offset) maxWord := by
  induction run generalizing offset with
  | nil => simp
  | cons digit rest ih =>
      rw [List.foldl_cons, pushDigit_min, ih, Nat.ofDigitChars_cons]
      rfl

theorem foldl_pushDigit (run : List Char) :
    run.foldl pushDigit 0 = min (Decimal.value run) maxWord :=
  foldl_pushDigit_min run 0

theorem readOffset?_eq_some_iff {run : List Char} {offset : Nat} :
    readOffset? run = some offset ↔
      Decimal.isNumeral run = true ∧ offset = min (Decimal.value run) maxWord := by
  rw [readOffset?, foldl_pushDigit]
  split
  · rename_i numeral
    simp [numeral, eq_comm]
  · rename_i notNumeral
    simp [notNumeral]

theorem readOffset?_of_isNumeral {run : List Char} (numeral : Decimal.isNumeral run = true) :
    readOffset? run = some (min (Decimal.value run) maxWord) :=
  readOffset?_eq_some_iff.mpr ⟨numeral, rfl⟩

/-! ## The grammar of range headers -/

/-- The texts that spell a range, and the range that each spells. Offsets are numerals of any
length, zeros in front included. -/
inductive Spells : List Char → RangeSpec → Prop where
  | closed {first last : List Char} (firstNumeral : Decimal.isNumeral first = true)
      (lastNumeral : Decimal.isNumeral last = true) :
      Spells ("bytes=".toList ++ first ++ '-' :: last)
        ⟨Decimal.value first, some (Decimal.value last)⟩
  | openEnded {first : List Char} (firstNumeral : Decimal.isNumeral first = true) :
      Spells ("bytes=".toList ++ first ++ ['-']) ⟨Decimal.value first, none⟩

/-- The header that spells a range, its offsets without zeros in front. -/
def text (spec : RangeSpec) : String :=
  "bytes=" ++ Decimal.text spec.first ++ "-" ++ (spec.last.map Decimal.text).getD ""

theorem spells_text (spec : RangeSpec) : Spells spec.text.toList spec := by
  rcases spec with ⟨first, last⟩
  have firstNumeral := Decimal.isNumeral_digits first
  cases last with
  | none =>
      have spelled := Spells.openEnded firstNumeral
      rw [Decimal.value_digits] at spelled
      simpa [text] using spelled
  | some last =>
      have spelled := Spells.closed firstNumeral (Decimal.isNumeral_digits last)
      rw [Decimal.value_digits, Decimal.value_digits] at spelled
      simpa [text] using spelled

/-! ## The reader against the grammar -/

/-- A range with its offsets held at the largest word. -/
def held (spec : RangeSpec) : RangeSpec :=
  ⟨min spec.first maxWord, spec.last.map (min · maxWord)⟩

theorem read?_of_unit_append {header : String} {offsets : List Char}
    (starts : header.toList = unit ++ offsets) : read? header = readOffsets? offsets := by
  rw [read?, starts, if_pos (by simp), List.drop_left]

theorem read?_of_spells {header : String} {spec : RangeSpec}
    (spells : Spells header.toList spec) : read? header = some spec.held := by
  generalize sameText : header.toList = text at spells
  cases spells with
  | closed firstNumeral lastNumeral =>
      rw [read?_of_unit_append (sameText.trans (List.append_assoc ..)), readOffsets?,
        Decimal.dropWhile_append_mark firstNumeral rfl,
        Decimal.takeWhile_append_mark firstNumeral rfl,
        readOffset?_of_isNumeral firstNumeral]
      simp [readOffset?_of_isNumeral lastNumeral, Decimal.ne_nil_of_isNumeral lastNumeral, held]
  | openEnded firstNumeral =>
      rw [read?_of_unit_append (sameText.trans (List.append_assoc ..)), readOffsets?,
        Decimal.dropWhile_append_mark firstNumeral rfl,
        Decimal.takeWhile_append_mark firstNumeral rfl,
        readOffset?_of_isNumeral firstNumeral]
      simp [held]

theorem spells_of_readOffsets? {offsets : List Char} {found : RangeSpec}
    (isRead : readOffsets? offsets = some found) :
    ∃ spec, Spells ("bytes=".toList ++ offsets) spec := by
  -- The offsets are the run in front of the first dash and what is left from there on.
  have parted := List.takeWhile_append_dropWhile (p := (· != '-')) (l := offsets)
  rw [readOffsets?] at isRead
  generalize List.takeWhile (· != '-') offsets = first at isRead parted
  cases behind : List.dropWhile (· != '-') offsets with
  | nil => simp [behind] at isRead
  | cons dash last =>
      have isDash : dash = '-' := by
        have stops := List.head?_dropWhile_not (· != '-') offsets
        simpa [behind] using stops
      subst isDash
      rw [behind] at parted isRead
      simp only [Option.bind_eq_bind] at isRead
      rcases Option.bind_eq_some_iff.mp isRead with ⟨start, startRead, isRead⟩
      have firstNumeral := (readOffset?_eq_some_iff.mp startRead).1
      rw [← parted, ← List.append_assoc]
      split at isRead
      · rename_i lastEmpty
        rw [List.isEmpty_iff.mp lastEmpty]
        exact ⟨_, .openEnded firstNumeral⟩
      · rcases Option.bind_eq_some_iff.mp isRead with ⟨final, finalRead, -⟩
        exact ⟨_, .closed firstNumeral (readOffset?_eq_some_iff.mp finalRead).1⟩

theorem spells_of_read? {header : String} {found : RangeSpec}
    (isRead : read? header = some found) : ∃ spec, Spells header.toList spec := by
  rw [read?] at isRead
  split at isRead
  · rename_i starts
    rcases List.isPrefixOf_iff_prefix.mp starts with ⟨offsets, split⟩
    rw [← split, List.drop_left] at isRead
    rw [← split]
    exact spells_of_readOffsets? isRead
  · simp at isRead

/-! ## What a range asks for -/

/-- The last offset of a range in content of the given length: the end where none is spelled or
the spelled one lies past it. -/
def exactLast (spec : RangeSpec) (length : Nat) : Nat :=
  match spec.last with
  | none => length - 1
  | some last => min last (length - 1)

theorem exactLast_lt (spec : RangeSpec) {length : Nat} (notEmpty : 0 < length) :
    spec.exactLast length < length := by
  unfold exactLast
  split <;> omega

/-- What a range asks of content of the given length, by the numbers alone: past the end the policy
decides, elsewhere the last offset is cut to the end. -/
def exactOutcome (spec : RangeSpec) (length : Nat) (policy : PastEndPolicy) : RangeOutcome :=
  if length ≤ spec.first then
    if policy = .collapse ∧ 0 < length then .part ⟨0, 0⟩ else .unsatisfiable
  else if spec.exactLast length < spec.first then .unsatisfiable
  else .part ⟨spec.first, spec.exactLast length⟩

/-- Fitting a range to content never faults. -/
theorem resolve_eq (spec : RangeSpec) (length : Nat) (policy : PastEndPolicy) :
    spec.resolve length policy = .ok (spec.exactOutcome length policy) := by
  by_cases pastEnd : length ≤ spec.first
  · cases policy with
    | unsatisfiable => simp [resolve, exactOutcome, PastEndPolicy.outcome, pastEnd]
    | collapse => simp [resolve, exactOutcome, PastEndPolicy.outcome, pastEnd]
  · have sized : Checked.sub length 1 = .ok (length - 1) := Checked.sub_of_le (by omega)
    simp only [resolve, exactOutcome, pastEnd, if_false, sized, bind, Except.bind]
    exact (apply_ite Except.ok ..).symm

/-- No length of content tells an offset from the held one. -/
theorem exactOutcome_held (spec : RangeSpec) {length : Nat} (fits : length ≤ maxWord)
    (policy : PastEndPolicy) :
    spec.held.exactOutcome length policy = spec.exactOutcome length policy := by
  rcases spec with ⟨first, last⟩
  have lastHeld : exactLast (held ⟨first, last⟩) length = exactLast ⟨first, last⟩ length := by
    cases last with
    | none => rfl
    | some last =>
        simp only [exactLast, held, Option.map_some]
        omega
  -- Holding changes an offset only past all lengths, so it is past the end before and after.
  by_cases pastEnd : length ≤ first
  · have heldPastEnd : length ≤ min first maxWord := by omega
    simp [exactOutcome, held, pastEnd, heldPastEnd]
  · have firstHeld : min first maxWord = first := by omega
    rw [exactOutcome, lastHeld]
    simp [exactOutcome, held, firstHeld]

end RangeSpec

namespace RangeOutcome

open RangeSpec

/-- What a range header, if any, is due by the grammar and the numbers that it spells; a header
that spells no range asks for nothing, just as a missing one. -/
inductive Due (length : Nat) (policy : PastEndPolicy) : Option String → RangeOutcome → Prop where
  | absent : Due length policy none .whole
  | noRange {header : String} (spellsNone : ∀ spec, ¬Spells header.toList spec) :
      Due length policy (some header) .whole
  | range {header : String} {spec : RangeSpec} (spells : Spells header.toList spec) :
      Due length policy (some header) (spec.exactOutcome length policy)

theorem ofHeader_of_spells {header : String} {spec : RangeSpec}
    (spells : Spells header.toList spec) {length : Nat} (fits : length ≤ maxWord)
    (policy : PastEndPolicy) :
    ofHeader (some header) length policy = .ok (spec.exactOutcome length policy) := by
  simp only [ofHeader, Option.bind_some, read?_of_spells spells, resolve_eq,
    exactOutcome_held spec fits]

theorem ofHeader_of_spells_none {header : String}
    (spellsNone : ∀ spec, ¬Spells header.toList spec) (length : Nat) (policy : PastEndPolicy) :
    ofHeader (some header) length policy = .ok .whole := by
  cases isRead : read? header with
  | none => simp [ofHeader, isRead]
  | some found =>
      rcases spells_of_read? isRead with ⟨spec, spells⟩
      exact absurd spells (spellsNone spec)

theorem ofHeader_of_due {header : Option String} {length : Nat} {policy : PastEndPolicy}
    {outcome : RangeOutcome} (fits : length ≤ maxWord) (due : Due length policy header outcome) :
    ofHeader header length policy = .ok outcome := by
  cases due with
  | absent => rfl
  | noRange spellsNone => exact ofHeader_of_spells_none spellsNone length policy
  | range spells => exact ofHeader_of_spells spells fits policy

theorem exists_due (header : Option String) (length : Nat) (policy : PastEndPolicy) :
    ∃ outcome, Due length policy header outcome := by
  cases header with
  | none => exact ⟨_, .absent⟩
  | some text =>
      by_cases spelled : ∃ spec, Spells text.toList spec
      · rcases spelled with ⟨spec, spells⟩
        exact ⟨_, .range spells⟩
      · exact ⟨_, .noRange fun spec spells => spelled ⟨spec, spells⟩⟩

/-- For each header, each length that a word holds and each policy, reading the header ends in the
one outcome that is due; how large an offset is never shows through its being held. -/
theorem ofHeader_exact (header : Option String) {length : Nat} (fits : length ≤ maxWord)
    (policy : PastEndPolicy) :
    ∃ outcome, ofHeader header length policy = .ok outcome ∧
      ∀ other, Due length policy header other ↔ other = outcome := by
  rcases exists_due header length policy with ⟨outcome, due⟩
  have isRead := ofHeader_of_due fits due
  refine ⟨outcome, isRead, fun other => ⟨fun otherDue => ?_, fun same => same ▸ due⟩⟩
  have otherRead := ofHeader_of_due fits otherDue
  rw [isRead] at otherRead
  exact (Except.ok.inj otherRead).symm

/-- An offset past all words, at the largest length: the offset that is held in its place is the
length itself. -/
theorem due_past_all_words :
    maxWord ≤ maxWord ∧ ∀ other,
      Due maxWord .collapse (some "bytes=18446744073709551616-") other ↔ other = .part ⟨0, 0⟩ := by
  rcases ofHeader_exact (some "bytes=18446744073709551616-") (Nat.le_refl maxWord) .collapse with
    ⟨outcome, isRead, due⟩
  have evaluated :
      ofHeader (some "bytes=18446744073709551616-") maxWord .collapse = .ok (.part ⟨0, 0⟩) := by
    cbv
  rw [evaluated] at isRead
  cases isRead
  exact ⟨Nat.le_refl maxWord, due⟩

end RangeOutcome

end RangeServer
