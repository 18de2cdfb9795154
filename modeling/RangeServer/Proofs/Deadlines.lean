import Mathlib
import RangeServer.Proofs.Looks
import RangeServer.Settings.Load

/-!
# Deadlines that the clock cannot show

The grace of a shutdown is any number of seconds that 64 bits hold, and the clock shows seconds of
63 bits. The deadline is their sum, and it is taken in any case, also when no connection is open.
So a server crashes when its wait for connections begins exactly if that sum leaves the clock; the
settings admit a grace for which every shutdown does. If the sum is within the clock, the server
waits and stops.
-/

namespace RangeServer

namespace Drain

variable {clock : ℕ} {grace : UInt64}

theorem seconds_deadline (clock : ℕ) (grace : UInt64) :
    (clock + grace.toNat * second) / second = clock / second + grace.toNat :=
  Nat.add_mul_div_right _ _ (by decide)

theorem deadline_of_le (within : clock / second + grace.toNat ≤ maxSecond) :
    deadline clock grace = .ok (clock + grace.toNat * second) := by
  rw [deadline_eq, deadlineAfter, seconds_deadline, if_pos within]

theorem deadline_of_lt (exceeds : maxSecond < clock / second + grace.toNat) :
    deadline clock grace = .error .clockOverflow := by
  rw [deadline_eq, deadlineAfter, seconds_deadline, if_neg (Nat.not_le.mpr exceeds)]

end Drain

namespace Server

variable {server : Server}

/-- A wait whose deadline the clock cannot show ends before it has begun, for good. -/
theorem crashed_of_lt (announced : server.stage = .announced) (clock : ℕ)
    (exceeds : Drain.maxSecond < clock / Drain.second + server.limits.writeTimeout.toNat)
    (later : List ServerEvent) :
    ((server.step (.beginWait clock)).1.run later).1.stage = .crashed .clockOverflow := by
  have crashed : (server.step (.beginWait clock)).1.stage = .crashed .clockOverflow := by
    rw [stage_step, proceed_beginWait_of_announced announced, Drain.deadline_of_lt exceeds]
    rfl
  exact (run_of_isOver (Or.inr ⟨_, crashed⟩) later).1.trans crashed

theorem waits_of_le (announced : server.stage = .announced) (clock : ℕ)
    (within : clock / Drain.second + server.limits.writeTimeout.toNat ≤ Drain.maxSecond)
    (later : List ServerEvent) :
    let waiting := (server.step (.beginWait clock)).1
    let deadline := clock + server.limits.writeTimeout.toNat * Drain.second
    WaitOutcome deadline server.limits.writeTimeout.toNat
        (Drain.wait? deadline (waiting.looks later)) (waiting.run later).1.stage
        (waiting.told later) ∧
      ∀ late, .look late ∈ later → deadline ≤ late →
        ((waiting.run later).1.step .complain).1.stage = .stopped := by
  intro waiting deadline
  have drains : waiting.stage = .draining deadline :=
    stage_beginWait_of_announced announced (Drain.deadline_of_le within)
  have outcome := run_of_draining drains later
  have sameLimits : waiting.limits = server.limits := limits_step server _
  rw [sameLimits] at outcome
  refine ⟨outcome, ?_⟩
  intro late looks isLate
  rcases exists_mem_looks waiting looks with ⟨look, isLook, rfl⟩
  -- The look decides the wait, unless an earlier one has.
  have decides : (Drain.decide? deadline look).isSome = true :=
    Option.isSome_iff_exists.mpr (Drain.exists_decide?_eq_some (Or.inr isLate))
  have isOver : (Drain.wait? deadline (waiting.looks later)).isSome = true :=
    List.findSome?_isSome_iff.mpr ⟨look, isLook, decides⟩
  rcases Option.isSome_iff_exists.mp isOver with ⟨drained, isDrained⟩
  rw [isDrained] at outcome
  exact stage_complain_of_outcome outcome

/-- Whatever happens before and during it, the first shutdown of a server crashes it when its wait
begins, then and for good, exactly if the clock cannot show the second that the grace ends in,
whatever is open. Otherwise the server comes to what the wait on its looks comes to, and stops after
a look that is not before the deadline. -/
theorem shutdown_crashes_iff (service : Service) {before first second : List ServerEvent}
    (noShutdown : .shutdown ∉ before) (firstElsewhere : Elsewhere first)
    (secondElsewhere : Elsewhere second) (clock : ℕ) (later : List ServerEvent) :
    let server :=
      ((start service).run (before ++ (.shutdown :: first ++ .announce :: second))).1
    let waiting := (server.step (.beginWait clock)).1
    let stage := (waiting.run later).1.stage
    let grace := service.settings.performance.writeTimeout.toNat
    (∀ fault, stage = .crashed fault ↔
      fault = .clockOverflow ∧ Drain.maxSecond < clock / Drain.second + grace) ∧
    (clock / Drain.second + grace ≤ Drain.maxSecond →
      let deadline := clock + grace * Drain.second
      WaitOutcome deadline grace (Drain.wait? deadline (waiting.looks later)) stage
          (waiting.told later) ∧
        ∀ late, .look late ∈ later → deadline ≤ late →
          ((waiting.run later).1.step .complain).1.stage = .stopped) := by
  intro server waiting stage grace
  have listening : ((start service).run before).1.listens = true :=
    listens_run_of_no_shutdown rfl noShutdown
  have announced : server.stage = .announced := by
    simp only [server]
    rw [run_append]
    exact announced_run listening firstElsewhere secondElsewhere
  have sameGrace : server.limits.writeTimeout.toNat = grace := by
    rw [limits, service_run]
    rfl
  have crashes := fun exceeds => crashed_of_lt announced clock exceeds later
  have waits := fun within => waits_of_le announced clock within later
  rw [sameGrace] at crashes waits
  refine ⟨?_, waits⟩
  intro fault
  constructor
  · intro crashed
    rcases Nat.lt_or_ge Drain.maxSecond (clock / Drain.second + grace) with exceeds | within
    · have sameFault := crashed.symm.trans (crashes exceeds)
      cases sameFault
      exact ⟨rfl, exceeds⟩
    · have stages : stage = _ ∨ stage = .overdue ∨ stage = .stopped :=
        (waits within).1.stage_cases
      simp [crashed] at stages
  · rintro ⟨rfl, exceeds⟩
    exact crashes exceeds

/-- The longest grace that one second still admits: the server stops, for no connection is open. -/
theorem shutdown_crashes_iff_last_second :
    let service : Service :=
      { settings :=
          { server := ⟨"127.0.0.1", 80, none⟩
            logging := ⟨"info", true, "combined", none, none⟩
            performance := ⟨75, 30, 9223372036854775806, none⟩
            http := ⟨.collapse⟩ }
        catalogue := .standard }
    let waiting :=
      (((start service).run [.shutdown, .announce]).1.step (.beginWait 1000000000)).1
    1000000000 / Drain.second + 9223372036854775806 = Drain.maxSecond ∧
      (waiting.run [.look 1000000000]).1.stage = .stopped := by
  intro service waiting
  have isLast : 1000000000 / Drain.second + 9223372036854775806 = Drain.maxSecond := by decide
  have noShutdown : ServerEvent.shutdown ∉ [] := List.not_mem_nil
  have elsewhere : Elsewhere [] := by simp [Elsewhere]
  have outcome := ((shutdown_crashes_iff service noShutdown elsewhere elsewhere 1000000000
    [.look 1000000000]).2 isLast.le).1
  exact ⟨isLast, outcome.stage_of_drained⟩

/-- A grace of as many seconds as 64 bits hold comes from the environment, and no connection is
open: even when the clock begins, the shutdown crashes the server. -/
theorem shutdown_crashes_for_long_grace :
    let settings : Settings :=
      ⟨⟨"0.0.0.0", 8000, none⟩, ⟨"info", true, "combined", none, none⟩,
        ⟨75, 30, 18446744073709551615, none⟩, ⟨.unsatisfiable⟩⟩
    Settings.load .plain ⟨[], []⟩ "fixture"
        [("FIXTURE_PERFORMANCE__WRITE_TIMEOUT", "18446744073709551615")] = .ok (.ok settings) ∧
      ((start (.standard settings)).run [.shutdown, .announce, .beginWait 0]).1.stage =
        .crashed .clockOverflow := by
  intro settings
  let entry : Setting := .plain (some "the environment") (.text "18446744073709551615")
  have noFile : SettingsFile.find? .plain ⟨[], []⟩ (.ofText "fixture") = none := by cbv
  have entries : Environment.fields
      [("FIXTURE_PERFORMANCE__WRITE_TIMEOUT", "18446744073709551615")] =
        [("performance.write_timeout", entry)] := by
    cbv
  have isRead : (do
      return Settings.read (← Settings.layers [] [("performance.write_timeout", entry)]).asGroup.2 :
        Checked (Except SettingsError Settings)) = .ok (.ok settings) := by
    cbv
  have loaded : Settings.load .plain ⟨[], []⟩ "fixture"
      [("FIXTURE_PERFORMANCE__WRITE_TIMEOUT", "18446744073709551615")] = .ok (.ok settings) := by
    rw [Settings.load, noFile, entries]
    exact isRead
  have exceeds : Drain.maxSecond < 0 / Drain.second + (18446744073709551615 : UInt64).toNat := by
    decide
  have announced : ((start (.standard settings)).run [.shutdown, .announce]).1.stage =
    .announced := rfl
  exact ⟨loaded, crashed_of_lt announced 0 exceeds []⟩

end Server

end RangeServer
