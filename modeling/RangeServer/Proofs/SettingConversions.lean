import Mathlib
import RangeServer.Proofs.SettingValues
import RangeServer.Proofs.ShortestDecimals

/-!
# What settings are taken for

A setting need not be given in the type that its key asks for: numbers and truth values are taken
for texts, texts and truth values for numbers, and so on. One relation for each type says which
settings are taken for which of its values, without the readers: words by their small letters,
numerals by the number that their digits denote, and floating-point numbers by their exact value, so
that rounding is a matter of distances.

`SettingKey.convert_eq_ok_iff` shows that the reader of each key finds the values of the relation
and no others. So a reader fails exactly on the settings that are taken for nothing.
-/

namespace RangeServer

/-- The exact value of a number that is finite. -/
def Binary64.toRat? : Binary64 → Option ℚ
  | .finite negative magnitude => some (if negative then -magnitude.toRat else magnitude.toRat)
  | .infinite _ | .undefined => none

/-! ## The relations -/

namespace PlainSetting

/-- The words for a truth value, in small letters. -/
def truthWords : Bool → List String
  | true => ["true", "on", "yes"]
  | false => ["false", "off", "no"]

/-- The texts that values are taken for. A floating-point number can be had back from its text. -/
inductive MeansText : PlainSetting → String → Prop where
  | text {value : String} : MeansText (.text value) value
  | yes : MeansText (.boolean true) "true"
  | no : MeansText (.boolean false) "false"
  | integer {value : ℤ} : MeansText (.integer value) (toString value)
  | real {value : Binary64} (spelled : value.IsDouble → value.SpelledBy value.text) :
      MeansText (.real value) value.text

/-- The truth values that values are taken for: no number but zero is false. -/
inductive MeansTruth : PlainSetting → Bool → Prop where
  | boolean {truth : Bool} : MeansTruth (.boolean truth) truth
  | integer {value : ℤ} : MeansTruth (.integer value) (decide (value ≠ 0))
  | real {value : Binary64} : MeansTruth (.real value) (decide (value.toRat? ≠ some 0))
  | word {text : String} {truth : Bool} (isWord : Case.lower text ∈ truthWords truth) :
      MeansTruth (.text text) truth
  | one {text : String} (isOne : Case.lower text = "1") : MeansTruth (.text text) true
  | nought {text : String} (isNought : Case.lower text = "0") : MeansTruth (.text text) false

/-- The numbers of 64 bits that values are taken for. A floating-point number is taken for the
nearest number, a half going up, as far as there are numbers. -/
inductive MeansNumber : PlainSetting → ℕ → Prop where
  | boolean {truth : Bool} : MeansNumber (.boolean truth) truth.toNat
  | integer {number : ℕ} (held : number < 2 ^ 64) : MeansNumber (.integer number) number
  | real {magnitude : Dyadic} {nearest : ℕ} (notAbove : (nearest : ℚ) - 1 / 2 ≤ magnitude.toRat)
      (notBelow : magnitude.toRat < nearest + 1 / 2) :
      MeansNumber (.real (.finite false magnitude)) (min nearest (2 ^ 64 - 1))
  | negative {magnitude : Dyadic} : MeansNumber (.real (.finite true magnitude)) 0
  | infinite : MeansNumber (.real (.infinite false)) (2 ^ 64 - 1)
  | negativeInfinite : MeansNumber (.real (.infinite true)) 0
  | undefined : MeansNumber (.real .undefined) 0
  | word {text : String} {truth : Bool} (isWord : Case.lower text ∈ truthWords truth) :
      MeansNumber (.text text) truth.toNat
  | digits {text : String} {run : List Char} (numeral : Decimal.isNumeral run = true)
      (isText : text.toList = run ∨ text.toList = '+' :: run)
      (held : Decimal.value run < 2 ^ 64) : MeansNumber (.text text) (Decimal.value run)

/-- Whether a value is taken for a number that 64 bits hold. -/
def MeansWord (value : PlainSetting) (word : UInt64) : Prop := value.MeansNumber word.toNat

/-- Whether a value is taken for a number that 16 bits hold. -/
def MeansWord16 (value : PlainSetting) (word : UInt16) : Prop := value.MeansNumber word.toNat

/-- What a value that may be lacking is taken for: nothing, or what any value is taken for. -/
inductive MeansOption {Value : Type} (Means : PlainSetting → Value → Prop) :
    PlainSetting → Option Value → Prop where
  | nothing : MeansOption Means .nothing none
  | something {value : PlainSetting} {taken : Value} (means : Means value taken) :
      MeansOption Means value (some taken)

end PlainSetting

namespace Setting

/-- A setting without parts is taken for what its value is taken for. -/
inductive IsTakenFor {Value : Type} (Means : PlainSetting → Value → Prop) :
    Setting → Value → Prop where
  | plain {origin : Option String} {value : PlainSetting} {taken : Value}
      (means : Means value taken) : IsTakenFor Means (.plain origin value) taken

/-- The names of the policies, in any case. -/
inductive NamesPolicy : String → PastEndPolicy → Prop where
  | unsatisfiable {name : String} (isName : Case.lower name = "unsatisfiable") :
      NamesPolicy name .unsatisfiable
  | collapse {name : String} (isName : Case.lower name = "collapse") : NamesPolicy name .collapse

/-- The policies that settings are taken for: a policy is named by a text, or by the one field of a
group. -/
inductive MeansPolicy : Setting → PastEndPolicy → Prop where
  | text {origin : Option String} {name : String} {policy : PastEndPolicy}
      (names : NamesPolicy name policy) : MeansPolicy (.plain origin (.text name)) policy
  | group {origin : Option String} {name : String} {setting : Setting} {policy : PastEndPolicy}
      (names : NamesPolicy name policy) : MeansPolicy (.group origin [(name, setting)]) policy

/-! ## The readers -/

section

open PlainSetting

variable {key : String} {setting : Setting}

theorem toText_eq_ok_iff {text : String} :
    setting.toText key = .ok text ↔ setting.IsTakenFor MeansText text := by
  constructor
  · intro isRead
    cases setting with
    | plain origin value =>
        refine .plain ?_
        cases value with
        | nothing => cases isRead
        | boolean truth =>
            cases truth with
            | true =>
                cases isRead
                exact .yes
            | false =>
                cases isRead
                exact .no
        | integer value =>
            cases isRead
            exact .integer
        | real value =>
            cases isRead
            exact .real Binary64.spelledBy_text
        | text value =>
            cases isRead
            exact .text
    | list origin items => cases isRead
    | group origin fields => cases isRead
  · rintro ⟨means⟩
    cases means <;> rfl

theorem truthOfWord?_eq_some_iff {word : String} {truth : Bool} :
    truthOfWord? word = some truth ↔ word ∈ truthWords truth := by
  unfold truthOfWord?
  split
  · rename_i isTrue
    rcases isTrue with rfl | rfl | rfl <;> cases truth <;> decide
  · rename_i notTrue
    split
    · rename_i isFalse
      rcases isFalse with rfl | rfl | rfl <;> cases truth <;> decide
    · rename_i notFalse
      cases truth with
      | true => simpa [truthWords] using notTrue
      | false => simpa [truthWords] using notFalse

theorem bne_zero (value : ℤ) : (value != 0) = decide (value ≠ 0) := by
  rw [Bool.eq_iff_iff, bne_iff_ne, decide_eq_true_iff]

theorem not_isZero (value : Binary64) : (!value.isZero) = decide (value.toRat? ≠ some 0) := by
  have isZero : value.isZero = true ↔ value.toRat? = some 0 := by
    cases value with
    | finite negative magnitude =>
        have exact : magnitude.toRat = 0 ↔ magnitude.significand = 0 := by
          rw [Dyadic.toRat, mul_eq_zero, or_iff_left (zpow_ne_zero _ two_ne_zero), Nat.cast_eq_zero]
        cases negative <;> simp [Binary64.isZero, Binary64.toRat?, exact]
    | infinite negative => simp [Binary64.isZero, Binary64.toRat?]
    | undefined => simp [Binary64.isZero, Binary64.toRat?]
  rw [Bool.eq_iff_iff, Bool.not_eq_true', ← Bool.not_eq_true, isZero, decide_eq_true_iff]

theorem truthOfText?_eq_some_iff {text : String} {truth : Bool} :
    truthOfText? (Case.lower text) = some truth ↔ MeansTruth (.text text) truth := by
  constructor
  · intro isTruth
    unfold truthOfText? at isTruth
    split at isTruth
    · rename_i isOne
      cases isTruth
      exact .one isOne
    · split at isTruth
      · rename_i isNought
        cases isTruth
        exact .nought isNought
      · exact .word (truthOfWord?_eq_some_iff.mp isTruth)
  · intro means
    cases means with
    | word isWord =>
        have notOne : Case.lower text ≠ "1" := by
          intro isOne
          rw [isOne] at isWord
          cases truth <;> revert isWord <;> decide
        have notNought : Case.lower text ≠ "0" := by
          intro isNought
          rw [isNought] at isWord
          cases truth <;> revert isWord <;> decide
        rw [truthOfText?, if_neg notOne, if_neg notNought, truthOfWord?_eq_some_iff]
        exact isWord
    | one isOne => rw [truthOfText?, if_pos isOne]
    | nought isNought =>
        rw [isNought]
        rfl

theorem toBool_eq_ok_iff {truth : Bool} :
    setting.toBool key = .ok truth ↔ setting.IsTakenFor MeansTruth truth := by
  constructor
  · intro isRead
    cases setting with
    | plain origin value =>
        refine .plain ?_
        cases value with
        | nothing => cases isRead
        | boolean truth =>
            cases isRead
            exact .boolean
        | integer value =>
            simp only [toBool, bne_zero, Except.ok.injEq] at isRead
            subst isRead
            exact .integer
        | real value =>
            simp only [toBool, not_isZero, Except.ok.injEq] at isRead
            subst isRead
            exact .real
        | text text =>
            simp only [toBool] at isRead
            split at isRead
            · rename_i isTruth
              cases isRead
              exact truthOfText?_eq_some_iff.mp isTruth
            · cases isRead
    | list origin items => cases isRead
    | group origin fields => cases isRead
  · rintro ⟨means⟩
    rename_i origin value
    cases value with
    | nothing => cases means
    | boolean truth =>
        cases means
        rfl
    | integer value =>
        cases means
        rw [toBool, bne_zero]
    | real value =>
        cases means
        rw [toBool, not_isZero]
    | text text => simp only [toBool, truthOfText?_eq_some_iff.mpr means]

/-- A numeral, with or without a plus, is no word. -/
theorem not_mem_truthWords {text : String} {run : List Char}
    (numeral : Decimal.isNumeral run = true) (isText : text.toList = run ∨ text.toList = '+' :: run)
    (truth : Bool) : Case.lower text ∉ truthWords truth := by
  have first : ∃ c rest, text.toList = c :: rest ∧ (c.isDigit = true ∨ c = '+') := by
    rcases isText with isRun | isSigned
    · cases run with
      | nil => exact absurd rfl (Decimal.ne_nil_of_isNumeral numeral)
      | cons c rest =>
          exact ⟨c, rest, isRun, .inl (Decimal.isDigit_of_mem numeral List.mem_cons_self)⟩
    · exact ⟨'+', run, isSigned, .inr rfl⟩
  rcases first with ⟨c, rest, isFirst, isMark⟩
  have code : 43 ≤ c.toNat ∧ c.toNat < 58 := by
    rcases isMark with isDigit | rfl
    · have digitCode := Decimal.code_of_isDigit isDigit
      omega
    · decide
  have codes : ∀ code < 58, 43 ≤ code → Char.ofNat code ≠ Case.sigma ∧
      Case.lowerChar (Char.ofNat code) = [Char.ofNat code] := by
    decide
  have same : c ≠ Case.sigma ∧ Case.lowerChar c = [c] := by
    simpa only [Char.ofNat_toNat] using codes c.toNat code.2 code.1
  have small : (Case.lower text).toList.head? = some c := by
    rw [Case.lower, isFirst, String.toList_ofList, Case.lowerAfter, if_neg same.1, same.2]
    rfl
  have heads : ∀ word ∈ truthWords truth, ∀ c ∈ word.toList.head?,
      c.isDigit = false ∧ c ≠ '+' := by
    cases truth <;> simp [truthWords]
  intro isWord
  have noMark := heads _ isWord c small
  rcases isMark with isDigit | isPlus
  · rw [noMark.1] at isDigit
    cases isDigit
  · exact noMark.2 isPlus

theorem eq_withoutPlus_or (text : List Char) :
    text = withoutPlus text ∨ text = '+' :: withoutPlus text := by
  unfold withoutPlus
  split
  · exact .inr rfl
  · exact .inl rfl

theorem withoutPlus_eq_of_isNumeral {text run : List Char}
    (numeral : Decimal.isNumeral run = true) (isText : text = run ∨ text = '+' :: run) :
    withoutPlus text = run := by
  rcases isText with rfl | rfl
  · unfold withoutPlus
    split
    · have isDigit := Decimal.isDigit_of_mem numeral List.mem_cons_self
      cases isDigit
    · rfl
  · rfl

theorem numberOfText?_eq_some_iff {text : String} {number : ℕ} :
    numberOfText? text = some number ↔ MeansNumber (.text text) number := by
  constructor
  · intro isNumber
    unfold numberOfText? at isNumber
    split at isNumber
    · rename_i truth isTruth
      cases isNumber
      exact .word (truthOfWord?_eq_some_iff.mp isTruth)
    · simp only [Option.bind_eq_bind, Option.bind_eq_some_iff, Option.ite_none_right_eq_some,
        Option.some.injEq, Decimal.read?] at isNumber
      rcases isNumber with ⟨_, ⟨numeral, rfl⟩, held, rfl⟩
      exact .digits numeral (eq_withoutPlus_or text.toList) held
  · intro means
    cases means with
    | word isWord => rw [numberOfText?, truthOfWord?_eq_some_iff.mpr isWord]
    | digits numeral isText held =>
        have noWord : truthOfWord? (Case.lower text) = none := by
          rw [Option.eq_none_iff_forall_ne_some]
          intro truth isTruth
          exact not_mem_truthWords numeral isText truth (truthOfWord?_eq_some_iff.mp isTruth)
        have isRun := withoutPlus_eq_of_isNumeral numeral isText
        simp only [numberOfText?, noWord, isRun, Decimal.read?, if_pos numeral]
        exact if_pos held

/-- Rounding to a natural number, a half going up. -/
theorem roundAway_eq_iff {magnitude : Dyadic} {nearest : ℕ} :
    Binary64.roundAway magnitude = nearest ↔
      (nearest : ℚ) - 1 / 2 ≤ magnitude.toRat ∧ magnitude.toRat < nearest + 1 / 2 := by
  have denominator : (0 : ℚ) < magnitude.denominator := by
    exact_mod_cast magnitude.denominator_pos
  have twice : 0 < 2 * magnitude.denominator := by
    have positive := magnitude.denominator_pos
    omega
  have bounds : Binary64.roundAway magnitude = nearest ↔
      nearest * (2 * magnitude.denominator) ≤ 2 * magnitude.numerator + magnitude.denominator ∧
        2 * magnitude.numerator + magnitude.denominator <
          (nearest + 1) * (2 * magnitude.denominator) := by
    rw [Binary64.roundAway, ← Nat.le_div_iff_mul_le twice, ← Nat.div_lt_iff_lt_mul twice]
    omega
  rw [bounds, Dyadic.toRat_eq, le_div_iff₀ denominator, div_lt_iff₀ denominator]
  constructor
  · rintro ⟨low, high⟩
    have exactLow : (nearest : ℚ) * (2 * magnitude.denominator) ≤
        2 * magnitude.numerator + magnitude.denominator := by
      exact_mod_cast low
    have exactHigh : (2 : ℚ) * magnitude.numerator + magnitude.denominator <
        (nearest + 1) * (2 * magnitude.denominator) := by
      exact_mod_cast high
    exact ⟨by linarith, by linarith⟩
  · rintro ⟨low, high⟩
    have exactLow : (nearest : ℚ) * (2 * magnitude.denominator) ≤
        2 * magnitude.numerator + magnitude.denominator := by
      linarith
    have exactHigh : (2 : ℚ) * magnitude.numerator + magnitude.denominator <
        (nearest + 1) * (2 * magnitude.denominator) := by
      linarith
    exact ⟨by exact_mod_cast exactLow, by exact_mod_cast exactHigh⟩

theorem toNumber_eq_ok_iff {number : ℕ} :
    setting.toNumber key = .ok number ↔ setting.IsTakenFor MeansNumber number := by
  constructor
  · intro isRead
    cases setting with
    | plain origin value =>
        refine .plain ?_
        cases value with
        | nothing => cases isRead
        | boolean truth =>
            cases isRead
            exact .boolean
        | integer value =>
            simp only [toNumber] at isRead
            split at isRead
            · rename_i held
              cases isRead
              have isValue : ((value.toNat : ℕ) : ℤ) = value := Int.toNat_of_nonneg held.1
              have small : value.toNat < 2 ^ 64 := (Int.toNat_lt held.1).mpr held.2
              simpa only [isValue] using MeansNumber.integer small
            · cases isRead
        | real value =>
            cases isRead
            cases value with
            | finite negative magnitude =>
                cases negative with
                | true => exact .negative
                | false =>
                    have nearest := roundAway_eq_iff.mp (rfl : Binary64.roundAway magnitude = _)
                    exact .real nearest.1 nearest.2
            | infinite negative =>
                cases negative with
                | true => exact .negativeInfinite
                | false => exact .infinite
            | undefined => exact .undefined
        | text text =>
            simp only [toNumber] at isRead
            split at isRead
            · rename_i isNumber
              cases isRead
              exact numberOfText?_eq_some_iff.mp isNumber
            · cases isRead
    | list origin items => cases isRead
    | group origin fields => cases isRead
  · rintro ⟨means⟩
    rename_i origin value
    cases value with
    | nothing => cases means
    | boolean truth =>
        cases means
        rfl
    | integer value =>
        cases means with
        | integer held =>
            have fits : 0 ≤ (number : ℤ) ∧ (number : ℤ) < Word.count64 :=
              ⟨Int.natCast_nonneg _, Int.ofNat_lt.mpr held⟩
            rw [toNumber, if_pos fits, Int.toNat_natCast]
    | real value =>
        cases means with
        | real notAbove notBelow =>
            rw [toNumber, Binary64.clampToNat, roundAway_eq_iff.mpr ⟨notAbove, notBelow⟩]
            rfl
        | negative => rfl
        | infinite => rfl
        | negativeInfinite => rfl
        | undefined => rfl
    | text text => simp only [toNumber, numberOfText?_eq_some_iff.mpr means]

theorem lt_of_meansNumber {value : PlainSetting} {number : ℕ} (means : value.MeansNumber number) :
    number < 2 ^ 64 := by
  cases means with
  | boolean => exact (Bool.toNat_le _).trans_lt (by norm_num)
  | integer held => exact held
  | real => exact (min_le_right _ _).trans_lt (by norm_num)
  | word => exact (Bool.toNat_le _).trans_lt (by norm_num)
  | digits numeral isText held => exact held
  | _ => norm_num

theorem toWord_eq_ok_iff {word : UInt64} :
    setting.toWord key = .ok word ↔ setting.IsTakenFor MeansWord word := by
  constructor
  · intro isRead
    cases isNumber : setting.toNumber key with
    | error fault =>
        rw [toWord, isNumber] at isRead
        cases isRead
    | ok number =>
        rw [toWord, isNumber] at isRead
        cases isRead
        rcases toNumber_eq_ok_iff.mp isNumber with ⟨means⟩
        refine .plain ?_
        rw [MeansWord, UInt64.toNat_ofNat_of_lt' (lt_of_meansNumber means)]
        exact means
  · rintro ⟨means⟩
    rw [toWord, toNumber_eq_ok_iff.mpr (.plain means), Except.map, UInt64.ofNat_toNat]

theorem toWord16_eq_ok_iff {word : UInt16} :
    setting.toWord16 key = .ok word ↔ setting.IsTakenFor MeansWord16 word := by
  constructor
  · intro isRead
    rw [toWord16, bind_eq_ok_iff] at isRead
    rcases isRead with ⟨number, isNumber, isRead⟩
    split at isRead
    · rename_i small
      cases isRead
      rcases toNumber_eq_ok_iff.mp isNumber with ⟨means⟩
      refine .plain ?_
      rw [MeansWord16, UInt16.toNat_ofNat_of_lt' small]
      exact means
    · cases isRead
  · rintro ⟨means⟩
    have small : word.toNat < Word.count16 := word.toNat_lt
    rw [toWord16, toNumber_eq_ok_iff.mpr (.plain means), ok_bind, if_pos small, UInt16.ofNat_toNat]
    rfl

/-- Reading something that may be lacking, if what is read has a meaning and nothing has none. -/
theorem toOption_eq_ok_iff {Value : Type} {Means : PlainSetting → Value → Prop}
    {read : String → Setting → Except SettingsError Value}
    (reads : ∀ value, read key setting = .ok value ↔ setting.IsTakenFor Means value)
    (notNothing : ∀ value, ¬Means .nothing value) {value : Option Value} :
    setting.toOption read key = .ok value ↔ setting.IsTakenFor (MeansOption Means) value := by
  constructor
  · intro isRead
    unfold toOption at isRead
    split at isRead
    · cases isRead
      exact .plain .nothing
    · cases isValue : read key setting with
      | error fault =>
          rw [isValue] at isRead
          cases isRead
      | ok taken =>
          rw [isValue] at isRead
          cases isRead
          rcases (reads taken).mp isValue with ⟨means⟩
          exact .plain (.something means)
  · rintro ⟨means⟩
    cases means with
    | nothing => rfl
    | something means =>
        unfold toOption
        split
        · rename_i isNothing
          cases isNothing
          exact absurd means (notNothing _)
        · rw [(reads _).mpr (.plain means)]
          rfl

theorem policyOfName?_eq_some_iff {name : String} {policy : PastEndPolicy} :
    policyOfName? name = some policy ↔ NamesPolicy name policy := by
  have first : Case.lower PastEndPolicy.unsatisfiable.title = "unsatisfiable" := by decide
  have second : Case.lower PastEndPolicy.collapse.title = "collapse" := by decide
  rw [policyOfName?, List.find?_cons, List.find?_cons, List.find?_nil, first, second]
  constructor
  · intro isPolicy
    split at isPolicy
    · rename_i isName
      cases isPolicy
      exact .unsatisfiable (beq_iff_eq.mp isName).symm
    · split at isPolicy
      · rename_i isName
        cases isPolicy
        exact .collapse (beq_iff_eq.mp isName).symm
      · cases isPolicy
  · intro names
    cases names with
    | unsatisfiable isName => simp [isName]
    | collapse isName => simp [isName]

theorem toPolicy_text_eq_ok_iff {origin : Option String} {name : String}
    {policy : PastEndPolicy} :
    toPolicy key (.plain origin (.text name)) = .ok policy ↔ NamesPolicy name policy := by
  rw [← policyOfName?_eq_some_iff]
  cases isPolicy : policyOfName? name <;> simp [toPolicy, isPolicy]

theorem toPolicy_eq_ok_iff {policy : PastEndPolicy} :
    setting.toPolicy key = .ok policy ↔ setting.MeansPolicy policy := by
  constructor
  · intro isRead
    cases setting with
    | plain origin value =>
        cases value with
        | text name => exact .text (toPolicy_text_eq_ok_iff.mp isRead)
        | _ => cases isRead
    | list origin items => cases isRead
    | group origin fields =>
        rcases fields with _ | ⟨⟨name, setting⟩, _ | ⟨next, rest⟩⟩
        · cases isRead
        · have named : toPolicy key (.plain none (.text name)) = .ok policy := isRead
          exact .group (toPolicy_text_eq_ok_iff.mp named)
        · cases isRead
  · intro means
    cases means with
    | text names => exact toPolicy_text_eq_ok_iff.mpr names
    | group names =>
        have named : toPolicy key (.plain none (.text _)) = .ok policy :=
          toPolicy_text_eq_ok_iff.mpr names
        exact named

end

end Setting

/-! ## Keys -/

namespace SettingKey

/-- The values that settings are taken for as the setting of a key. -/
def Means : (key : SettingKey) → Setting → key.Value → Prop
  | host | level | accessLogFormat => Setting.IsTakenFor PlainSetting.MeansText
  | port => Setting.IsTakenFor PlainSetting.MeansWord16
  | workers | maxConnections =>
    Setting.IsTakenFor (PlainSetting.MeansOption PlainSetting.MeansWord)
  | accessLog => Setting.IsTakenFor PlainSetting.MeansTruth
  | accessLogFile | errorLogFile =>
    Setting.IsTakenFor (PlainSetting.MeansOption PlainSetting.MeansText)
  | keepAliveTimeout | readTimeout | writeTimeout => Setting.IsTakenFor PlainSetting.MeansWord
  | startPastEnd => Setting.MeansPolicy

/-- The reader of a key finds what a setting is taken for. -/
theorem convert_eq_ok_iff (key : SettingKey) {setting : Setting} {value : key.Value} :
    key.convert setting = .ok value ↔ key.Means setting value := by
  have noWord : ∀ word, ¬PlainSetting.MeansWord .nothing word := by
    rintro word ⟨⟩
  have noText : ∀ text, ¬PlainSetting.MeansText .nothing text := by
    rintro text ⟨⟩
  cases key with
  | host => exact Setting.toText_eq_ok_iff
  | port => exact Setting.toWord16_eq_ok_iff
  | workers => exact Setting.toOption_eq_ok_iff (fun _ => Setting.toWord_eq_ok_iff) noWord
  | level => exact Setting.toText_eq_ok_iff
  | accessLog => exact Setting.toBool_eq_ok_iff
  | accessLogFormat => exact Setting.toText_eq_ok_iff
  | accessLogFile => exact Setting.toOption_eq_ok_iff (fun _ => Setting.toText_eq_ok_iff) noText
  | errorLogFile => exact Setting.toOption_eq_ok_iff (fun _ => Setting.toText_eq_ok_iff) noText
  | keepAliveTimeout => exact Setting.toWord_eq_ok_iff
  | readTimeout => exact Setting.toWord_eq_ok_iff
  | writeTimeout => exact Setting.toWord_eq_ok_iff
  | maxConnections => exact Setting.toOption_eq_ok_iff (fun _ => Setting.toWord_eq_ok_iff) noWord
  | startPastEnd =>
      change setting.toPolicy startPastEnd.text = .ok value ↔ _
      exact Setting.toPolicy_eq_ok_iff

/-- A setting is not read exactly if it is taken for nothing. -/
theorem exists_convert_eq_error_iff (key : SettingKey) {setting : Setting} :
    (∃ fault, key.convert setting = .error fault) ↔ ∀ value, ¬key.Means setting value := by
  simp only [← key.convert_eq_ok_iff]
  cases key.convert setting <;> simp

end SettingKey

end RangeServer
