import RangeServer.Number.Powers

/-!
# Checked arithmetic

Offsets and sizes are 64-bit words. A sum, difference or slice that a word or a byte sequence
cannot hold is a `Fault`, never a wrapped or a shortened value.
-/

namespace RangeServer

/-- A sequence of bytes, such as the content of a resource or the body of a response. -/
abbrev Bytes := List UInt8

/-- The largest number that a 64-bit word holds. -/
def maxWord : Nat := Word.count64 - 1

/-- The broken preconditions that end a computation without an answer. -/
inductive Fault where
  /-- A sum or a difference leaves the 64-bit words. -/
  | overflow
  /-- A slice reaches outside the bytes that it is cut from. -/
  | outOfBounds
  /-- A thread pool is asked for with no threads. -/
  | noThreads
  /-- A thread pool is asked for with more threads than the host has room for. -/
  | tooManyThreads
  /-- An instant lies beyond the last second that the clock can show. -/
  | clockOverflow
  /-- A list has to grow beyond what memory has room for. -/
  | noRoom
  deriving DecidableEq, Repr

/-- A computation that may end in a fault. -/
abbrev Checked := Except Fault

theorem ok_bind {Error First Second : Type} (value : First)
    (next : First → Except Error Second) : Except.ok value >>= next = next value := rfl

/-- A computation in two steps has a value exactly if each step has one. -/
theorem bind_eq_ok_iff {Error First Second : Type} {first : Except Error First}
    {next : First → Except Error Second} {value : Second} :
    first >>= next = .ok value ↔ ∃ middle, first = .ok middle ∧ next middle = .ok value := by
  cases first with
  | error error => simp [bind, Except.bind]
  | ok middle => simp [bind, Except.bind]

namespace Checked

/-- The sum of two words, if a word holds it. -/
def add (left right : Nat) : Checked Nat :=
  if left + right ≤ maxWord then .ok (left + right) else .error .overflow

/-- The difference of two words, if it is not negative. -/
def sub (left right : Nat) : Checked Nat :=
  if right ≤ left then .ok (left - right) else .error .overflow

/-- The bytes from offset `first` up to but not including offset `stop`. -/
def slice (bytes : Bytes) (first stop : Nat) : Checked Bytes :=
  if first ≤ stop ∧ stop ≤ bytes.length then .ok ((bytes.take stop).drop first)
  else .error .outOfBounds

theorem add_of_le {left right : Nat} (fits : left + right ≤ maxWord) :
    add left right = .ok (left + right) := if_pos fits

theorem sub_of_le {left right : Nat} (le : right ≤ left) :
    sub left right = .ok (left - right) := if_pos le

theorem slice_of_le {bytes : Bytes} {first stop : Nat} (le : first ≤ stop)
    (within : stop ≤ bytes.length) :
    slice bytes first stop = .ok ((bytes.take stop).drop first) := if_pos ⟨le, within⟩

end Checked

end RangeServer
