import Mathlib.Data.List.Basic
import RangeServer.Server.Shutdown

/-!
# Requests and wake-ups

A switch holds two bits, and a request sets both: one bit is never cleared again, the other is
cleared by the poll that it wakes. What the two bits come to is said here about histories, the lists
of all that was done with a switch and of what came of it. `ShutdownSwitch.run_wakes` says that a
poll is woken exactly if a request was made since the last one that was, so that no request is lost
and requests that pile up wake one poll only; and that a query is answered with yes exactly if any
request was made before it, from the first woken poll on at the latest.

The bits are the two properties of the history that `ShutdownSwitch.Remembers` names. Each call
preserves this, and each answer is read off one of the bits.
-/

namespace RangeServer

/-- What can be done with a switch: ask for a shutdown, wait without patience, or ask whether a
shutdown was ever asked for. -/
inductive SwitchCall where
  | request (reason : String)
  | poll
  | query
  deriving DecidableEq, Repr

/-- What was done with a switch, and what came of it. -/
inductive SwitchEvent where
  | requested (reason : String)
  | polled (woken : Bool)
  | queried (answer : Bool)
  deriving DecidableEq, Repr

namespace SwitchEvent

/-- The call that an event came of. -/
def call : SwitchEvent → SwitchCall
  | requested reason => .request reason
  | polled _ => .poll
  | queried _ => .query

/-- Whether a history has a request in it. -/
def Asked (history : List SwitchEvent) : Prop := ∃ reason, requested reason ∈ history

/-- Whether a request was made since the last woken poll of a history, or at all if none was
woken. -/
def Due (history : List SwitchEvent) : Prop :=
  ∃ earlier reason later, history = earlier ++ requested reason :: later ∧ polled true ∉ later

theorem asked_concat_iff (history : List SwitchEvent) (event : SwitchEvent) :
    Asked (history ++ [event]) ↔ Asked history ∨ ∃ reason, event = requested reason := by
  simp only [Asked, List.mem_append, List.mem_singleton, exists_or, eq_comm]

theorem due_concat_iff (history : List SwitchEvent) (event : SwitchEvent) :
    Due (history ++ [event]) ↔
      (∃ reason, event = requested reason) ∨ event ≠ polled true ∧ Due history := by
  constructor
  · rintro ⟨earlier, reason, later, parted, unwoken⟩
    rcases List.eq_nil_or_concat later with rfl | ⟨later, last, rfl⟩
    · have same := List.append_inj' parted rfl
      exact Or.inl ⟨reason, by simpa using same.2⟩
    · rw [List.concat_eq_append, ← List.cons_append, ← List.append_assoc] at parted
      have same := List.append_inj' parted rfl
      have isLast : event = last := by simpa using same.2
      simp only [List.concat_eq_append, List.mem_append, List.mem_singleton, not_or] at unwoken
      refine Or.inr ⟨fun woken => unwoken.2 (woken.symm.trans isLast), ?_⟩
      exact ⟨earlier, reason, later, same.1, unwoken.1⟩
  · rintro (⟨reason, rfl⟩ | ⟨notWoken, earlier, reason, later, rfl, unwoken⟩)
    · exact ⟨history, reason, [], rfl, by simp⟩
    · refine ⟨earlier, reason, later ++ [event], by simp, ?_⟩
      simp only [List.mem_append, List.mem_singleton, not_or]
      exact ⟨unwoken, fun woken => notWoken woken.symm⟩

/-- Whether what came of a call is what the history in front of it calls for. -/
def Follows (history : List SwitchEvent) : SwitchEvent → Prop
  | requested _ => True
  | polled woken => woken = true ↔ Due history
  | queried answer => answer = true ↔ Asked history

theorem Asked.of_due {history : List SwitchEvent} (due : Due history) : Asked history := by
  rcases due with ⟨earlier, reason, later, rfl, -⟩
  exact ⟨reason, by simp⟩

end SwitchEvent

namespace ShutdownSwitch

open SwitchEvent

/-- The switch after a call, with what came of it. -/
def call (switch : ShutdownSwitch) : SwitchCall → ShutdownSwitch × SwitchEvent
  | .request reason => ((switch.request reason).1, .requested reason)
  | .poll => (switch.poll.1, .polled switch.poll.2)
  | .query => (switch, .queried switch.requested)

/-- The switch after calls, with the history of them. -/
def run (switch : ShutdownSwitch) : List SwitchCall → ShutdownSwitch × List SwitchEvent
  | [] => (switch, [])
  | call :: rest =>
    (((switch.call call).1.run rest).1, (switch.call call).2 :: ((switch.call call).1.run rest).2)

theorem map_call_run (switch : ShutdownSwitch) (calls : List SwitchCall) :
    (switch.run calls).2.map SwitchEvent.call = calls := by
  induction calls generalizing switch with
  | nil => rfl
  | cons call rest ih =>
      rw [run, List.map_cons, ih]
      cases call <;> rfl

/-- Whether the two bits of a switch are what they should be after a history. -/
structure Remembers (switch : ShutdownSwitch) (history : List SwitchEvent) : Prop where
  requested : switch.requested = true ↔ Asked history
  permit : switch.permit = true ↔ Due history

theorem remembers_idle : idle.Remembers [] where
  requested := by simp [idle, Asked]
  permit := by simp [idle, Due]

namespace Remembers

variable {switch : ShutdownSwitch} {history : List SwitchEvent}

theorem call (remembers : switch.Remembers history) (call : SwitchCall) :
    (switch.call call).1.Remembers (history ++ [(switch.call call).2]) := by
  rcases remembers with ⟨requested, permit⟩
  cases call with
  | request reason =>
      constructor
      · simp [ShutdownSwitch.call, request, asked_concat_iff]
      · simp [ShutdownSwitch.call, request, due_concat_iff]
  | poll =>
      constructor
      · simp [ShutdownSwitch.call, poll, asked_concat_iff, requested]
      · -- A poll that is not woken finds no request due, so that none is due behind it either.
        cases woken : switch.permit with
        | false => simp [ShutdownSwitch.call, poll, due_concat_iff, woken, ← permit]
        | true => simp [ShutdownSwitch.call, poll, due_concat_iff, woken]
  | query =>
      constructor
      · simp [ShutdownSwitch.call, asked_concat_iff, requested]
      · simp [ShutdownSwitch.call, due_concat_iff, permit]

theorem follows_call (remembers : switch.Remembers history) (call : SwitchCall) :
    (switch.call call).2.Follows history := by
  cases call with
  | request reason => trivial
  | poll => exact remembers.permit
  | query => exact remembers.requested

theorem run (remembers : switch.Remembers history) (calls : List SwitchCall) :
    (switch.run calls).1.Remembers (history ++ (switch.run calls).2) := by
  induction calls generalizing switch history with
  | nil => simpa [ShutdownSwitch.run] using remembers
  | cons call rest ih => simpa [ShutdownSwitch.run] using ih (remembers.call call)

/-- Each event of a run is what the events in front of it call for. -/
theorem follows_run (remembers : switch.Remembers history) (calls : List SwitchCall)
    {earlier later : List SwitchEvent} {event : SwitchEvent}
    (parted : (switch.run calls).2 = earlier ++ event :: later) :
    event.Follows (history ++ earlier) := by
  induction calls generalizing switch history earlier with
  | nil => simp [ShutdownSwitch.run] at parted
  | cons call rest ih =>
      rw [ShutdownSwitch.run] at parted
      cases earlier with
      | nil =>
          rw [List.nil_append, List.cons.injEq] at parted
          rw [List.append_nil, ← parted.1]
          exact remembers.follows_call call
      | cons first others =>
          rw [List.cons_append, List.cons.injEq] at parted
          have inRest := ih (remembers.call call) parted.2
          rwa [parted.1, List.append_assoc, List.singleton_append] at inRest

end Remembers

/-- Whatever is done with a switch, in any order: a poll is woken exactly if a request was made
since the last woken poll, however many there were; a query is answered with yes exactly if a
request was made before it, so it is once another query was or a poll was woken; and the bit that
queries read is set exactly if a request was made. -/
theorem run_wakes (calls : List SwitchCall) :
    ∃ switch history, idle.run calls = (switch, history) ∧
      history.map SwitchEvent.call = calls ∧
      (∀ earlier woken later, history = earlier ++ .polled woken :: later →
        (woken = true ↔ Due earlier)) ∧
      (∀ earlier answer later, history = earlier ++ .queried answer :: later →
        (answer = true ↔ Asked earlier) ∧
        (.queried true ∈ earlier ∨ .polled true ∈ earlier → answer = true)) ∧
      (switch.requested = true ↔ Asked history) := by
  have follows {earlier later : List SwitchEvent} {event : SwitchEvent}
      (parted : (idle.run calls).2 = earlier ++ event :: later) : event.Follows earlier :=
    remembers_idle.follows_run calls parted
  refine ⟨_, _, rfl, map_call_run idle calls, ?_, ?_, (remembers_idle.run calls).requested⟩
  · intro earlier woken later parted
    exact follows parted
  · intro earlier answer later parted
    have answered : answer = true ↔ Asked earlier := follows parted
    refine ⟨answered, fun known => answered.mpr ?_⟩
    -- What was known before goes back to a request that was made before it.
    have asked {event : SwitchEvent} (mem : event ∈ earlier)
        (tells : ∀ front, event.Follows front → Asked front) : Asked earlier := by
      rcases List.append_of_mem mem with ⟨front, back, rfl⟩
      rw [List.append_assoc, List.cons_append] at parted
      rcases tells front (follows parted) with ⟨reason, inFront⟩
      exact ⟨reason, List.mem_append_left _ inFront⟩
    rcases known with wasQueried | wasWoken
    · exact asked wasQueried fun _ yes => yes.mp rfl
    · exact asked wasWoken fun _ woken => .of_due (woken.mp rfl)

end ShutdownSwitch

end RangeServer
