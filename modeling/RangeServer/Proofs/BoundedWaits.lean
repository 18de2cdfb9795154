import Mathlib
import RangeServer.Proofs.Looks

/-!
# Waits end in time

A wait for connections looks at their counter again and again, and sleeps behind each look that
decides nothing. Neither the counter nor the clock is in its hands: here the counter may change in
any way between two looks, and of the clock no more is known than that it goes on while the wait
sleeps. `Drain.wait_ends` bounds the number of looks by the grace and says what the wait comes to.

The bound hangs on one invariant: as long as nothing is decided, the clock is at least as many
intervals past the beginning of the wait as there were sleeps.
-/

namespace RangeServer.Drain

variable {began deadline grace : ℕ} {look : Look} {looks : ℕ → Look}

/-! ## One look -/

theorem decide?_eq_none_iff :
    decide? deadline look = none ↔ look.count ≠ 0 ∧ look.clock < deadline := by
  unfold decide?
  split_ifs <;> simp_all

theorem decide?_eq_true_iff : decide? deadline look = some true ↔ look.count = 0 := by
  unfold decide?
  split_ifs <;> simp_all

theorem decide?_eq_false_iff :
    decide? deadline look = some false ↔ look.count ≠ 0 ∧ deadline ≤ look.clock := by
  unfold decide?
  split_ifs <;> simp_all

theorem deadlineAfter_eq_ok (isDeadline : deadlineAfter began grace = .ok deadline) :
    deadline = began + grace := by
  unfold deadlineAfter at isDeadline
  split at isDeadline
  · cases isDeadline
    rfl
  · cases isDeadline

/-! ## Many looks -/

/-- The first looks of a wait. -/
def firstLooks (looks : ℕ → Look) (count : ℕ) : List Look := (List.range count).map looks

theorem wait?_firstLooks_succ (deadline : ℕ) (looks : ℕ → Look) (count : ℕ) :
    wait? deadline (firstLooks looks (count + 1)) =
      (wait? deadline (firstLooks looks count)).or (decide? deadline (looks count)) := by
  simp [wait?, firstLooks, List.range_succ]

/-- Whether a look is the first to decide something. -/
def Decides (deadline : ℕ) (looks : ℕ → Look) (last : ℕ) (drained : Bool) : Prop :=
  (∀ index < last, decide? deadline (looks index) = none) ∧
    decide? deadline (looks last) = some drained

theorem undecided_or_decides (deadline : ℕ) (looks : ℕ → Look) (count : ℕ) :
    (∀ index < count, decide? deadline (looks index) = none) ∨
      ∃ last < count, ∃ drained, Decides deadline looks last drained := by
  induction count with
  | zero =>
      left
      intro index impossible
      omega
  | succ count ih =>
      rcases ih with undecided | ⟨last, before, decided⟩
      · cases decision : decide? deadline (looks count) with
        | none =>
            left
            intro index within
            rcases Nat.lt_succ_iff_lt_or_eq.mp within with earlier | rfl
            · exact undecided index earlier
            · exact decision
        | some drained => exact Or.inr ⟨count, by omega, drained, undecided, decision⟩
      · exact Or.inr ⟨last, by omega, decided⟩

/-- A wait is over with the first look that decides something, and not before. -/
theorem Decides.wait?_firstLooks {last : ℕ} {drained : Bool}
    (decides : Decides deadline looks last drained) (count : ℕ) :
    wait? deadline (firstLooks looks count) = if last < count then some drained else none := by
  induction count with
  | zero => rfl
  | succ count ih =>
      rw [wait?_firstLooks_succ, ih]
      by_cases isOver : last < count
      · simp [isOver, show last < count + 1 by omega]
      · by_cases now : last = count
        · subst now
          simp [decides.2]
        · have undecided := decides.1 count (by omega)
          simp [isOver, undecided, show ¬last < count + 1 by omega]

/-- A wait comes to `true` exactly if a look finds no connection while no earlier one finds the time
over. -/
theorem Decides.eq_true_iff {last : ℕ} {drained : Bool}
    (decides : Decides deadline looks last drained) :
    drained = true ↔ ∃ index, (looks index).count = 0 ∧
      ∀ earlier < index, (looks earlier).count ≠ 0 → (looks earlier).clock < deadline := by
  constructor
  · rintro rfl
    refine ⟨last, decide?_eq_true_iff.mp decides.2, ?_⟩
    intro earlier before _
    exact (decide?_eq_none_iff.mp (decides.1 earlier before)).2
  · rintro ⟨index, noneOpen, inTime⟩
    by_contra notDrained
    have timeOver := decides.2
    rw [Bool.not_eq_true] at notDrained
    rw [notDrained, decide?_eq_false_iff] at timeOver
    rcases lt_trichotomy last index with before | rfl | behind
    · have stillInTime := inTime last before timeOver.1
      omega
    · exact timeOver.1 noneOpen
    · exact (decide?_eq_none_iff.mp (decides.1 index behind)).1 noneOpen

/-! ## The clock of a wait -/

/-- What is known of the clock of a wait. It is read behind a look that finds connections only: the
first time not before the wait began, and across each sleep it goes on by the interval at least. -/
structure Paced (began deadline : ℕ) (looks : ℕ → Look) : Prop where
  begins : (looks 0).count ≠ 0 → began ≤ (looks 0).clock
  sleeps : ∀ index, decide? deadline (looks index) = none → (looks (index + 1)).count ≠ 0 →
    (looks index).clock + interval ≤ (looks (index + 1)).clock

theorem Paced.clock_of_undecided (paced : Paced began deadline looks) (index : ℕ)
    (undecided : ∀ earlier ≤ index, decide? deadline (looks earlier) = none) :
    began + index * interval ≤ (looks index).clock := by
  have someOpen : (looks index).count ≠ 0 :=
    (decide?_eq_none_iff.mp (undecided index le_rfl)).1
  induction index with
  | zero => simpa using paced.begins someOpen
  | succ index ih =>
      have undecidedBefore : ∀ earlier ≤ index, decide? deadline (looks earlier) = none := by
        intro earlier within
        exact undecided earlier (by omega)
      have undecidedNow := undecidedBefore index le_rfl
      have clockBefore := ih undecidedBefore (decide?_eq_none_iff.mp undecidedNow).1
      have slept := paced.sleeps index undecidedNow someOpen
      rw [Nat.succ_mul]
      omega

theorem Paced.exists_decides (paced : Paced began (began + grace) looks) :
    ∃ last ≤ grace ⌈/⌉ interval, ∃ drained, Decides (began + grace) looks last drained := by
  rcases undecided_or_decides (began + grace) looks (grace ⌈/⌉ interval + 1) with
    undecided | ⟨last, within, decided⟩
  · -- One look more than there are intervals finds the clock at the deadline, so it had decided.
    exfalso
    have enough : grace ≤ interval * (grace ⌈/⌉ interval) :=
      le_smul_ceilDiv (by decide : 0 < interval)
    have clock := paced.clock_of_undecided (grace ⌈/⌉ interval) fun earlier within =>
      undecided earlier (by omega)
    have inTime := (decide?_eq_none_iff.mp (undecided (grace ⌈/⌉ interval) (by omega))).2
    rw [Nat.mul_comm] at clock
    omega
  · exact ⟨last, by omega, decided⟩

/-- Whatever happens to the counter, a wait whose deadline the clock can show is over after as many
looks as there are intervals in the grace, begun ones included, and one more. It comes to `true`
exactly if a look finds no connection before one finds the time over, and to `false` exactly if its
last look finds connections and the time over. Without a grace the first look decides. A server that
begins to wait and takes these looks has come where the wait has come: it goes on, or stops, or
tells the log of open connections before it stops. -/
theorem wait_ends (isDeadline : deadlineAfter began grace = .ok deadline)
    (paced : Paced began deadline looks) :
    ∃ last ≤ grace ⌈/⌉ interval, ∃ drained : Bool,
      (∀ count, wait? deadline (firstLooks looks count) =
        if last < count then some drained else none) ∧
      (drained = true ↔ ∃ index, (looks index).count = 0 ∧
        ∀ earlier < index, (looks earlier).count ≠ 0 → (looks earlier).clock < deadline) ∧
      (drained = false ↔ (looks last).count ≠ 0 ∧ deadline ≤ (looks last).clock) ∧
      (grace = 0 → (drained = true ↔ (looks 0).count = 0)) ∧
      (∀ server : Server, server.stage = .announced →
        grace = server.limits.writeTimeout.toNat * second →
        (server.step (.beginWait began)).1.stage = .draining deadline) ∧
      ∀ (server : Server) (events : List ServerEvent) (count : ℕ),
        server.stage = .draining deadline → server.looks events = firstLooks looks count →
          let course := (server.run events).1
          WaitOutcome deadline server.limits.writeTimeout.toNat
              (if last < count then some drained else none) course.stage (server.told events) ∧
            (last < count → (course.step .complain).1.stage = .stopped) := by
  rcases deadlineAfter_eq_ok isDeadline with rfl
  rcases paced.exists_decides with ⟨last, within, drained, decides⟩
  have waits := decides.wait?_firstLooks
  refine ⟨last, within, drained, waits, decides.eq_true_iff, ?_, ?_, ?_, ?_⟩
  · rw [← decide?_eq_false_iff, decides.2, Option.some_inj]
  · rintro rfl
    have isFirst : last = 0 := by simpa using within
    subst isFirst
    have noneOpen : decide? (began + 0) (looks 0) = some true ↔ (looks 0).count = 0 :=
      decide?_eq_true_iff
    rw [← noneOpen, decides.2, Option.some_inj]
  · rintro server announced rfl
    exact Server.stage_beginWait_of_announced announced isDeadline
  · intro server events count drains sameLooks course
    have outcome := Server.run_of_draining drains events
    rw [sameLooks, waits count] at outcome
    refine ⟨outcome, ?_⟩
    intro isOver
    rw [if_pos isOver] at outcome
    exact Server.stage_complain_of_outcome outcome

/-- Two connections end within the two intervals begun in a grace of 70 milliseconds. The third look
finds that out although the time is over by then. -/
theorem wait_ends_last_interval :
    let looks (index : ℕ) : Look := ⟨2 - index, 7 + index * interval⟩
    deadlineAfter 7 70000000 = .ok 70000007 ∧ Paced 7 70000007 looks ∧
      wait? 70000007 (firstLooks looks 2) = none ∧
      wait? 70000007 (firstLooks looks 3) = some true := by
  intro looks
  have isDeadline : deadlineAfter 7 70000000 = .ok 70000007 := by decide
  have paced : Paced 7 70000007 looks := by
    constructor
    · intro _
      simp [looks]
    · intro index _ _
      simp only [looks, Nat.succ_mul]
      omega
  obtain ⟨last, within, drained, waits, whenTrue, -⟩ := wait_ends isDeadline paced
  have isDrained : drained = true := by
    refine whenTrue.mpr ⟨2, rfl, ?_⟩
    intro earlier within _
    simp only [looks, interval]
    omega
  have undecided : wait? 70000007 (firstLooks looks 2) = none := by decide
  have notSooner : ¬last < 2 := by
    intro sooner
    rw [waits 2, if_pos sooner] at undecided
    cases undecided
  have intervals : 70000000 ⌈/⌉ interval = 2 := by
    rw [Nat.ceilDiv_eq_add_pred_div]
    rfl
  refine ⟨isDeadline, paced, undecided, ?_⟩
  rw [waits 3, if_pos (by omega), isDrained]

end RangeServer.Drain
