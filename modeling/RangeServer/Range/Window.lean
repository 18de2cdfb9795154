import RangeServer.Checked

/-!
# Byte windows

An inclusive window of byte offsets, the number of bytes that it covers and the outcome of asking
for one.
-/

namespace RangeServer

/-- The bytes from offset `first` to offset `last`, both included. -/
structure ByteWindow where
  first : Nat
  last : Nat
  deriving DecidableEq, Repr

/-- How many bytes a window covers; a fault for a window that ends before it starts and for the
one window that covers more bytes than a word counts. -/
def ByteWindow.span (window : ByteWindow) : Checked Nat := do
  Checked.add (← Checked.sub window.last window.first) 1

/-- A window that lies within content of the given length. -/
def ByteWindow.Within (window : ByteWindow) (length : Nat) : Prop :=
  window.first ≤ window.last ∧ window.last < length

instance (window : ByteWindow) (length : Nat) : Decidable (window.Within length) :=
  inferInstanceAs (Decidable (_ ∧ _))

/-- What a range request asks for, once its window is fitted to the content. -/
inductive RangeOutcome where
  /-- The whole content: nothing was asked for, or nothing that reads as a range. -/
  | whole
  /-- One window of the content. -/
  | part (window : ByteWindow)
  /-- A range that the content cannot satisfy. -/
  | unsatisfiable
  deriving DecidableEq, Repr

/-- What to answer when a range starts at or past the end of the content. -/
inductive PastEndPolicy where
  /-- The range is unsatisfiable. -/
  | unsatisfiable
  /-- The range collapses to the first byte. -/
  | collapse
  deriving DecidableEq, Repr

namespace PastEndPolicy

/-- The outcome of a range that starts past the end; empty content has no first byte to give. -/
def outcome (policy : PastEndPolicy) (length : Nat) : RangeOutcome :=
  match policy with
  | .collapse => if 0 < length then .part ⟨0, 0⟩ else .unsatisfiable
  | .unsatisfiable => .unsatisfiable

/-- The name of a policy, as the banner shows it. -/
def title : PastEndPolicy → String
  | .unsatisfiable => "Unsatisfiable"
  | .collapse => "Collapse"

/-- The policy that applies when none is chosen. -/
def standard : PastEndPolicy := .unsatisfiable

end PastEndPolicy

end RangeServer
