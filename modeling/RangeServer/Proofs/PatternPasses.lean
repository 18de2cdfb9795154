import Mathlib
import RangeServer.AccessLog.Format

/-!
# Twelve passes and one

A pattern is expanded in twelve passes, one for each variable. What a pass puts in is read again by
the passes after it, so a value with a dollar sign may be expanded itself, and text of the pattern
may join with a value to the name of a variable. Where neither can happen the twelve passes do what
a single pass does that takes the longest variable at each place.

The single pass cuts a pattern into pieces. The invariant of the passes is that the text after some
of them is the pieces with the values of the variables that are done; a pass keeps it because the
name of its variable is found at its own pieces and nowhere else. A name found anywhere else would
be written in the pattern, where the single pass found no longer one, or would reach into a value
from the text before it (`Delimited` excludes that) or start within a value (`PlainFor` does).
-/

namespace RangeServer

namespace LogVariable

instance : Fintype LogVariable where
  elems := ⟨order, by decide⟩
  complete := by
    intro slot
    cases slot <;> decide

/-- Whether a variable is replaced before another. -/
def Before (slot other : LogVariable) : Prop := List.Sublist [slot, other] order

instance (slot other : LogVariable) : Decidable (slot.Before other) :=
  inferInstanceAs (Decidable (List.Sublist [slot, other] order))

theorem mem_order (slot : LogVariable) : slot ∈ order := by cases slot <;> decide

theorem exists_name_eq (slot : LogVariable) :
    ∃ tail, slot.name.toList = '$' :: tail ∧ '$' ∉ tail := by
  refine ⟨slot.name.toList.tail, ?_⟩
  cases slot <;> decide

theorem name_ne_nil (slot : LogVariable) : slot.name.toList ≠ [] := by
  rcases slot.exists_name_eq with ⟨tail, isName, -⟩
  simp [isName]

theorem before_of_name_prefix : ∀ slot other : LogVariable,
    slot.name.toList <+: other.name.toList → slot = other ∨ other.Before slot := by
  decide

theorem Before.not_before : ∀ {slot other : LogVariable},
    slot.Before other → slot ≠ other ∧ ¬other.Before slot := by
  decide

section

variable {done later : List LogVariable} {slot : LogVariable}

theorem before_of_mem (isOrder : order = done ++ slot :: later) {other : LogVariable}
    (isDone : other ∈ done) : other.Before slot := by
  rw [Before, isOrder]
  apply (List.singleton_sublist.mpr isDone).append
  exact List.singleton_sublist.mpr List.mem_cons_self

theorem mem_of_before (isOrder : order = done ++ slot :: later) {other : LogVariable}
    (before : other.Before slot) : other ∈ done := by
  rcases before.not_before with ⟨different, notBefore⟩
  have mem := other.mem_order
  rw [isOrder, List.mem_append, List.mem_cons] at mem
  rcases mem with isDone | rfl | isLater
  · exact isDone
  · exact absurd rfl different
  · refine absurd ?_ notBefore
    rw [Before, isOrder]
    apply List.Sublist.trans _ (List.sublist_append_right done (slot :: later))
    exact (List.singleton_sublist.mpr isLater).cons_cons slot

end

end LogVariable

namespace LogPattern

/-! ## The longest variable at a place -/

/-- The longer of two variables, the first of them if neither is longer. -/
def longer (best : Option LogVariable) (slot : LogVariable) : Option LogVariable :=
  match best with
  | some other => if other.name.length < slot.name.length then some slot else best
  | none => some slot

theorem longer_spec (best : Option LogVariable) (slot : LogVariable) :
    ∃ longest, longer best slot = some longest ∧ (best = some longest ∨ longest = slot) ∧
      slot.name.length ≤ longest.name.length ∧
      ∀ other, best = some other → other.name.length ≤ longest.name.length := by
  cases best with
  | none => exact ⟨slot, rfl, Or.inr rfl, le_refl _, by simp⟩
  | some before =>
      by_cases shorter : before.name.length < slot.name.length
      · refine ⟨slot, if_pos shorter, Or.inr rfl, le_refl _, ?_⟩
        rintro other ⟨⟩
        omega
      · refine ⟨before, if_neg shorter, Or.inl rfl, by omega, ?_⟩
        rintro other ⟨⟩
        exact le_refl _

theorem foldl_longer {slots : List LogVariable} {best : Option LogVariable} {longest : LogVariable}
    (found : slots.foldl longer best = some longest) :
    (best = some longest ∨ longest ∈ slots) ∧
      ∀ slot, best = some slot ∨ slot ∈ slots → slot.name.length ≤ longest.name.length := by
  induction slots generalizing best with
  | nil =>
      refine ⟨Or.inl found, ?_⟩
      rintro slot (isBest | mem)
      · rw [← Option.some.inj (isBest.symm.trans found)]
      · cases mem
  | cons first rest ih =>
      rcases longer_spec best first with ⟨next, isNext, fromEither, firstLe, bestLe⟩
      rcases ih found with ⟨fromRest, restLe⟩
      have nextLe := restLe next (Or.inl isNext)
      constructor
      · rcases fromRest with isLonger | mem
        · cases Option.some.inj (isNext.symm.trans isLonger)
          exact fromEither.imp_right fun isFirst => by simp [isFirst]
        · exact Or.inr (List.mem_cons_of_mem _ mem)
      · rintro slot (isBest | mem)
        · exact (bestLe slot isBest).trans nextLe
        · rcases List.mem_cons.mp mem with rfl | mem
          · exact firstLe.trans nextLe
          · exact restLe slot (Or.inr mem)

theorem foldl_longer_isSome (slots : List LogVariable) (best : LogVariable) :
    ∃ longest, slots.foldl longer (some best) = some longest := by
  induction slots generalizing best with
  | nil => exact ⟨best, rfl⟩
  | cons first rest ih =>
      rcases longer_spec (some best) first with ⟨next, isNext, -⟩
      rw [List.foldl_cons, isNext]
      exact ih next

theorem longestAt?_eq (text : List Char) :
    longestAt? text =
      (LogVariable.order.filter fun slot => slot.name.toList.isPrefixOf text).foldl longer none :=
  rfl

theorem mem_candidates_iff {slot : LogVariable} {text : List Char} :
    slot ∈ LogVariable.order.filter (fun slot => slot.name.toList.isPrefixOf text) ↔
      slot.name.toList <+: text := by
  rw [List.mem_filter, List.isPrefixOf_iff_prefix]
  exact and_iff_right slot.mem_order

/-- The variable found at a place is the longest one there. -/
theorem longest_of_longestAt? {text : List Char} {slot : LogVariable}
    (found : longestAt? text = some slot) :
    slot.name.toList <+: text ∧
      ∀ other : LogVariable, other.name.toList <+: text →
        other.name.toList <+: slot.name.toList := by
  rw [longestAt?_eq] at found
  rcases foldl_longer found with ⟨isCandidate, longest⟩
  have isPrefix : slot.name.toList <+: text :=
    mem_candidates_iff.mp (isCandidate.resolve_left (by simp))
  refine ⟨isPrefix, ?_⟩
  intro other otherPrefix
  apply List.prefix_of_prefix_length_le otherPrefix isPrefix
  rw [String.length_toList, String.length_toList]
  exact longest other (Or.inr (mem_candidates_iff.mpr otherPrefix))

theorem not_prefix_of_longestAt? {text : List Char} (none : longestAt? text = none)
    (slot : LogVariable) : ¬slot.name.toList <+: text := by
  intro isPrefix
  have mem := mem_candidates_iff.mpr isPrefix
  rw [longestAt?_eq] at none
  cases candidates : LogVariable.order.filter fun slot => slot.name.toList.isPrefixOf text with
  | nil =>
      rw [candidates] at mem
      cases mem
  | cons first rest =>
      rcases foldl_longer_isSome rest first with ⟨longest, found⟩
      rw [candidates, List.foldl_cons, longer, found] at none
      cases none

/-! ## Pieces -/

/-- A piece of a pattern as a single pass reads it. -/
inductive Piece where
  | char (c : Char)
  | named (slot : LogVariable)

/-- A piece as it is written in the pattern. -/
def Piece.written : Piece → List Char
  | .char c => [c]
  | .named slot => slot.name.toList

/-- A piece when some variables are done. -/
def Piece.after (entry : AccessEntry) (done : List LogVariable) : Piece → List Char
  | .char c => [c]
  | .named slot => if slot ∈ done then (slot.value entry).toList else slot.name.toList

def written (pieces : List Piece) : List Char := pieces.flatMap Piece.written

/-- The text of pieces when some variables are done. -/
def after (entry : AccessEntry) (done : List LogVariable) (pieces : List Piece) : List Char :=
  pieces.flatMap (Piece.after entry done)

/-- The pieces of a pattern, its first `skip` characters being the rest of a variable. -/
def piecesFrom : Nat → List Char → List Piece
  | _, [] => []
  | skip + 1, _ :: rest => piecesFrom skip rest
  | 0, c :: rest =>
    match longestAt? (c :: rest) with
    | some slot => .named slot :: piecesFrom (slot.name.length - 1) rest
    | none => .char c :: piecesFrom 0 rest

/-- Whether a single pass reads each piece where it stands. -/
def Cut : List Piece → Prop
  | [] => True
  | .char c :: rest => longestAt? (c :: written rest) = none ∧ Cut rest
  | .named slot :: rest => longestAt? (slot.name.toList ++ written rest) = some slot ∧ Cut rest

/-- The pieces of a pattern are the pattern, cut where a single pass cuts it. -/
theorem cut_piecesFrom (skip : Nat) (text : List Char) :
    Cut (piecesFrom skip text) ∧ written (piecesFrom skip text) = text.drop skip := by
  induction text generalizing skip with
  | nil => cases skip <;> exact ⟨trivial, rfl⟩
  | cons c rest ih =>
      cases skip with
      | succ skip => exact ih skip
      | zero =>
          unfold piecesFrom
          cases found : longestAt? (c :: rest) with
          | none =>
              rcases ih 0 with ⟨cut, isRest⟩
              rw [List.drop_zero] at isRest
              refine ⟨⟨?_, cut⟩, ?_⟩
              · rwa [isRest]
              · simpa [written, Piece.written] using isRest
          | some slot =>
              rcases ih (slot.name.length - 1) with ⟨cut, isRest⟩
              rcases (longest_of_longestAt? found).1 with ⟨behind, isText⟩
              rcases slot.exists_name_eq with ⟨tail, isName, -⟩
              have size : slot.name.length - 1 = tail.length := by
                rw [← String.length_toList, isName]
                rfl
              rw [isName, List.cons_append, List.cons.injEq] at isText
              rcases isText with ⟨rfl, rfl⟩
              rw [size, List.drop_left] at isRest
              have whole : slot.name.toList ++ written (piecesFrom tail.length (tail ++ behind)) =
                  '$' :: (tail ++ behind) := by
                rw [isRest, isName, List.cons_append]
              dsimp only
              rw [size] at cut ⊢
              refine ⟨⟨?_, cut⟩, whole⟩
              rwa [whole]

theorem expandFrom_eq (entry : AccessEntry) (skip : Nat) (text : List Char) :
    expandFrom entry skip text = after entry LogVariable.order (piecesFrom skip text) := by
  induction text generalizing skip with
  | nil => cases skip <;> rfl
  | cons c rest ih =>
      cases skip with
      | succ skip => exact ih skip
      | zero =>
          unfold expandFrom piecesFrom
          cases longestAt? (c :: rest) with
          | none => simp [ih, after, Piece.after]
          | some slot => simp [ih, after, Piece.after, slot.mem_order]

theorem after_nil (entry : AccessEntry) (pieces : List Piece) :
    after entry [] pieces = written pieces := by
  apply List.flatMap_congr
  intro piece _
  cases piece <;> simp [Piece.after, Piece.written]

/-! ## Passes -/

/-- Whether one of two texts starts with the other. -/
def Meets (text other : List Char) : Prop := text <+: other ∨ other <+: text

instance (text other : List Char) : Decidable (Meets text other) :=
  inferInstanceAs (Decidable (_ ∨ _))

/-- Whether no variable that stands between two texts has a value that goes on with the name of a
variable replaced after it, where the front ends in the start of that name. -/
def DelimitedAt (entry : AccessEntry) (front behind : List Char) : Prop :=
  ∀ slot other : LogVariable, slot.Before other → slot.name.toList <+: behind →
    ∀ size < other.name.length, 0 < size → other.name.toList.take size <:+ front →
      ¬Meets (other.name.toList.drop size) (slot.value entry).toList

instance (entry : AccessEntry) (front behind : List Char) :
    Decidable (DelimitedAt entry front behind) := by
  unfold DelimitedAt
  infer_instance

/-- Whether nowhere in a pattern its text joins with a value to the name of a variable that is
replaced after the value is put in. -/
def Delimited (entry : AccessEntry) (pattern : List Char) : Prop :=
  ∀ place ≤ pattern.length, DelimitedAt entry (pattern.take place) (pattern.drop place)

instance (entry : AccessEntry) (pattern : List Char) : Decidable (Delimited entry pattern) := by
  unfold Delimited
  infer_instance

/-- Whether no value that is put into a pattern holds the name of a variable that is replaced after
it, or ends in the start of such a name. -/
def PlainFor (entry : AccessEntry) (pattern : List Char) : Prop :=
  ∀ slot other : LogVariable, slot.Before other → slot.name.toList <:+: pattern →
    ∀ behind, behind <:+ (slot.value entry).toList → behind ≠ [] →
      ¬Meets other.name.toList behind

theorem Delimited.no_join {entry : AccessEntry} {pattern : List Char}
    (delimited : Delimited entry pattern) {slot other : LogVariable} (before : slot.Before other)
    {front start rest behind : List Char}
    (isPattern : pattern = front ++ start ++ (slot.name.toList ++ behind))
    (isName : other.name.toList = start ++ rest) (startNotEmpty : start ≠ [])
    (restNotEmpty : rest ≠ []) : ¬Meets rest (slot.value entry).toList := by
  have place : (front ++ start).length ≤ pattern.length := by simp [isPattern]
  have here := delimited _ place
  rw [isPattern, List.take_left, List.drop_left] at here
  have size : other.name.length = start.length + rest.length := by
    rw [← String.length_toList, isName, List.length_append]
  have startSize := List.length_pos_iff.mpr startNotEmpty
  have restSize := List.length_pos_iff.mpr restNotEmpty
  have apart := here slot other before (List.prefix_append _ _) start.length (by omega) startSize
  rw [isName, List.take_left, List.drop_left] at apart
  exact apart (List.suffix_append front start)

/-- A name at the front of a text with values in it is written there, or it reaches into a value
with which its rest goes on. -/
theorem prefix_after {entry : AccessEntry} {done : List LogVariable} {name : List Char}
    {pieces : List Piece} (isPrefix : name <+: after entry done pieces) :
    name <+: written pieces ∨
      ∃ start slot behind rest, pieces = start ++ .named slot :: behind ∧ slot ∈ done ∧
        name = written start ++ rest ∧ rest ≠ [] ∧ Meets rest (slot.value entry).toList := by
  induction pieces generalizing name with
  | nil => exact Or.inl isPrefix
  | cons piece pieces ih =>
      -- Only the first value counts: up to there the text is the pattern.
      by_cases isValue : ∃ slot ∈ done, piece = .named slot
      · rcases isValue with ⟨slot, isDone, rfl⟩
        have isText : name <+: (slot.value entry).toList ++ after entry done pieces := by
          simpa [after, Piece.after, isDone] using isPrefix
        by_cases empty : name = []
        · exact Or.inl (by simp [empty])
        · refine Or.inr ⟨[], slot, pieces, name, rfl, isDone, rfl, empty, ?_⟩
          exact List.prefix_or_prefix_of_prefix isText (List.prefix_append _ _)
      · have fresh : piece.after entry done = piece.written := by
          cases piece with
          | char c => rfl
          | named slot =>
              apply if_neg
              intro isDone
              exact isValue ⟨slot, isDone, rfl⟩
        have isText : name <+: piece.written ++ after entry done pieces := by
          rw [← fresh]
          exact isPrefix
        rcases List.prefix_or_prefix_of_prefix isText (List.prefix_append _ _) with
          within | ⟨more, rfl⟩
        · exact Or.inl (within.trans (List.prefix_append _ _))
        · rcases ih ((List.prefix_append_right_inj _).mp isText) with
            isWritten | ⟨start, slot, behind, rest, rfl, isDone, rfl, notEmpty, meets⟩
          · exact Or.inl ((List.prefix_append_right_inj _).mpr isWritten)
          · refine Or.inr ⟨piece :: start, slot, behind, rest, rfl, isDone, ?_, notEmpty, meets⟩
            exact (List.append_assoc _ _ _).symm

section

variable {entry : AccessEntry} {pattern : List Char} {done later : List LogVariable}
  {slot : LogVariable} {front rest : List Piece} {piece : Piece}

theorem written_ne_nil (piece : Piece) : piece.written ≠ [] := by
  cases piece with
  | char c => simp [Piece.written]
  | named slot => exact slot.name_ne_nil

/-- In a pattern that is delimited, a name that is not written in front of pieces whose first one is
not done is not found there either. -/
theorem not_prefix_after (delimited : Delimited entry pattern)
    (isPattern : pattern = written front ++ written (piece :: rest))
    (isOrder : LogVariable.order = done ++ slot :: later)
    (fresh : ∀ other ∈ done, piece ≠ .named other)
    (notWritten : ¬slot.name.toList <+: written (piece :: rest)) :
    ¬slot.name.toList <+: after entry done (piece :: rest) := by
  intro isPrefix
  rcases prefix_after isPrefix with
    isWritten | ⟨start, other, behind, more, isPieces, isDone, isName, notEmpty, meets⟩
  · exact notWritten isWritten
  · cases start with
    | nil =>
        cases isPieces
        exact fresh other isDone rfl
    | cons first start =>
        have stands : pattern = written front ++ written (first :: start) ++
            (other.name.toList ++ written behind) := by
          rw [isPattern, isPieces]
          simp [written, Piece.written]
        apply delimited.no_join (LogVariable.before_of_mem isOrder isDone) stands isName _ notEmpty
        · exact meets
        · simp [written, written_ne_nil]

/-- A name is not found in what follows the dollar sign of a name. -/
theorem not_prefix_of_not_mem {behind text : List Char} (unmarked : '$' ∉ behind)
    (notEmpty : behind ≠ []) : ¬slot.name.toList <+: behind ++ text := by
  rcases slot.exists_name_eq with ⟨tail, isName, -⟩
  cases behind with
  | nil => exact absurd rfl notEmpty
  | cons c behind =>
      rw [isName]
      intro isPrefix
      rcases (List.cons_prefix_cons.mp isPrefix).1 with rfl
      exact unmarked List.mem_cons_self

/-- A pass over the text of pieces puts the values of its variable in, at the pieces that name it
and nowhere else. -/
theorem go_after (delimited : Delimited entry pattern) (plain : PlainFor entry pattern)
    (isOrder : LogVariable.order = done ++ slot :: later)
    (isPattern : pattern = written front ++ written rest) (cut : Cut rest) :
    Replace.go slot.name.toList (slot.value entry).toList 0 (after entry done rest) =
      after entry (done ++ [slot]) rest := by
  induction rest generalizing front with
  | nil => rfl
  | cons piece rest ih =>
      have isRest : pattern = written (front ++ [piece]) ++ written rest := by
        rw [isPattern]
        simp [written]
      cases piece with
      | char c =>
          have notFound : ¬slot.name.toList <+: after entry done (.char c :: rest) := by
            apply not_prefix_after delimited isPattern isOrder (by simp)
            exact not_prefix_of_longestAt? cut.1 slot
          have copied := Replace.go_of_not_prefix notFound (slot.value entry).toList
          exact copied.trans (congrArg (c :: ·) (ih isRest cut.2))
      | named other =>
          by_cases isDone : other ∈ done
          -- The value is in the text by now, and the name starts nowhere within it.
          · have before := LogVariable.before_of_mem isOrder isDone
            have stands : other.name.toList <:+: pattern := by
              refine ⟨written front, written rest, ?_⟩
              rw [isPattern]
              simp [written, Piece.written]
            have notFound : ∀ behind, behind <:+ (other.value entry).toList → behind ≠ [] →
                ¬slot.name.toList <+: behind ++ after entry done rest := by
              intro behind ends notEmpty isPrefix
              apply plain other slot before stands behind ends notEmpty
              exact List.prefix_or_prefix_of_prefix isPrefix (List.prefix_append _ _)
            have copied := Replace.go_append notFound (slot.value entry).toList
            simp only [after, List.flatMap_cons, Piece.after, List.mem_append, isDone, true_or,
              if_true] at copied ⊢
            rw [copied]
            exact congrArg _ (ih isRest cut.2)
          by_cases same : other = slot
          -- The place that this pass is for.
          · subst same
            simp only [after, List.flatMap_cons, Piece.after, if_neg isDone, List.mem_append,
              List.mem_singleton, or_true, if_true]
            rw [Replace.go_of_prefix other.name_ne_nil]
            exact congrArg _ (ih isRest cut.2)
          -- A name that a later pass is for. Found at its front, the name would be the start of it,
          -- but variables with longer names are done first.
          · have notFound : ¬slot.name.toList <+: after entry done (.named other :: rest) := by
              apply not_prefix_after delimited isPattern isOrder
              · rintro found foundDone ⟨⟩
                exact isDone foundDone
              · intro isPrefix
                have shorter := (longest_of_longestAt? cut.1).2 slot isPrefix
                rcases LogVariable.before_of_name_prefix slot other shorter with isSame | before
                · exact same isSame.symm
                · exact isDone (LogVariable.mem_of_before isOrder before)
            rcases other.exists_name_eq with ⟨tail, isName, unmarked⟩
            have notBehind : ∀ behind, behind <:+ tail → behind ≠ [] →
                ¬slot.name.toList <+: behind ++ after entry done rest := by
              intro behind ends
              exact not_prefix_of_not_mem fun mem => unmarked (ends.mem mem)
            have copied := Replace.go_append notBehind (slot.value entry).toList
            have fresh : other ∉ done ++ [slot] := by simp [isDone, same]
            simp only [after, List.flatMap_cons, Piece.after, if_neg isDone, if_neg fresh, isName,
              List.cons_append] at notFound copied ⊢
            rw [Replace.go_of_not_prefix notFound, copied]
            exact congrArg (fun text => '$' :: (tail ++ text)) (ih isRest cut.2)

theorem foldl_after (delimited : Delimited entry pattern) (plain : PlainFor entry pattern)
    (isPattern : pattern = written rest) (cut : Cut rest)
    (isOrder : LogVariable.order = done ++ later) :
    later.foldl (fun text slot => Replace.all slot.name.toList (slot.value entry).toList text)
      (after entry done rest) = after entry LogVariable.order rest := by
  induction later generalizing done with
  | nil => rw [isOrder, List.append_nil, List.foldl_nil]
  | cons slot later ih =>
      have next : LogVariable.order = (done ++ [slot]) ++ later := by
        rw [isOrder, List.append_assoc, List.singleton_append]
      have fromStart : pattern = written [] ++ written rest := isPattern
      rw [List.foldl_cons, Replace.all, go_after delimited plain isOrder fromStart cut]
      exact ih next

end

/-- Where values neither hold names nor join to names, the passes give what a single pass gives. -/
theorem expand_eq_expandOnce {entry : AccessEntry} {pattern : List Char}
    (delimited : Delimited entry pattern) (plain : PlainFor entry pattern) :
    expand entry pattern = expandOnce entry pattern := by
  rcases cut_piecesFrom 0 pattern with ⟨cut, isPattern⟩
  have passes := foldl_after delimited plain isPattern.symm cut (List.nil_append _).symm
  rw [after_nil, isPattern, List.drop_zero] at passes
  rw [expandOnce, expandFrom_eq]
  exact passes

end LogPattern

namespace AccessEntry

/-- A custom pattern is expanded once, each variable giving its value as it is, if the values
neither hold names of variables nor join to such names with the text around them. Only names of
variables that are replaced later matter. -/
theorem line_eq_expandOnce {entry : AccessEntry} {text : String}
    (custom : text ∉ ["combined", "common", "json"])
    (delimited : LogPattern.Delimited entry text.toList)
    (plain : LogPattern.PlainFor entry text.toList) :
    entry.line (.ofName text) = String.ofList (LogPattern.expandOnce entry text.toList) := by
  have isPattern : LogFormat.ofName text = .pattern text := by
    unfold LogFormat.ofName
    split <;> simp_all
  rw [isPattern, line, LogPattern.expand_eq_expandOnce delimited plain]

/-- An entry about a path that is not registered. -/
def missingEntry (method path : String) : AccessEntry where
  remoteAddress := "127.0.0.1"
  time := ⟨0, 0, 0⟩
  method := method
  path := path
  query := none
  version := "1.1"
  status := 404
  bodySize := 0
  range := none
  referer := none
  userAgent := none
  microseconds := 0

/-- A dollar sign in front of a variable, and another one in the path. -/
theorem line_eq_expandOnce_dollars :
    let entry := missingEntry "GET" "/$a"
    let text := "$$request_uri $status"
    text ∉ ["combined", "common", "json"] ∧ LogPattern.Delimited entry text.toList ∧
      LogPattern.PlainFor entry text.toList ∧
      entry.line (.ofName text) = String.ofList (LogPattern.expandOnce entry text.toList) := by
  intro entry text
  have custom : text ∉ ["combined", "common", "json"] := by decide
  have delimited : LogPattern.Delimited entry text.toList := by decide
  have plain : LogPattern.PlainFor entry text.toList := by
    have standing : ∀ slot : LogVariable, slot.name.toList <:+: text.toList →
        slot ∈ [LogVariable.uri, .requestLine, .status] := by
      decide
    have values : ∀ slot ∈ [LogVariable.uri, .requestLine, .status], ∀ other : LogVariable,
        ∀ behind ∈ (slot.value entry).toList.tails, behind ≠ [] →
          ¬LogPattern.Meets other.name.toList behind := by
      decide
    intro slot other _ stands behind ends
    exact values slot (standing slot stands) other behind ((List.mem_tails behind _).mpr ends)
  exact ⟨custom, delimited, plain, line_eq_expandOnce custom delimited plain⟩

/-- A path that is the name of a variable is replaced by the value of the variable. -/
theorem line_ne_expandOnce_path :
    let entry := missingEntry "GET" "/$status"
    let text := "$request_uri"
    entry.line (.ofName text) = "/404" ∧
      String.ofList (LogPattern.expandOnce entry text.toList) = "/$status" := by
  cbv

/-- A method joins with the pattern in front of it to the name of a variable. -/
example : LogPattern.expand (missingEntry "status" "/") "$$request_method".toList =
    "404".toList := by
  cbv

end AccessEntry

end RangeServer
