import RangeServer.Proofs.Entries
import RangeServer.Proofs.ServerSteps

/-!
# Live connections and the counter

The server counts its connections. The counter goes up when a connection comes and down when one is
turned away or ends, at different places and at times that nobody orders. It stays what it is meant
to be: the number of the connections that have come and have not been closed.

The invariant is `Server.Accounts`, a relation between a server and all that it has done so far.
`Server.Accounts.onConnection` keeps it for whatever happens on one connection,
`Server.Accounts.letIn` and `Server.Accounts.turnAway` for a connection that comes; the steps of a
shutdown do not touch it. `Server.Accounts.run` puts the steps together.
-/

namespace RangeServer

/-- The connection that an effect closes. -/
def ServerEffect.closing? : ServerEffect → Option Nat
  | .closed number => some number
  | _ => none

namespace Server

variable {server : Server} {service : Service}

/-! ## Lists of live connections -/

/-- The numbers of the live connections. -/
def numbers (server : Server) : List Nat := server.live.map (·.1)

/-- The numbers of the connections that effects close, in order. -/
def closings (effects : List ServerEffect) : List Nat :=
  effects.filterMap ServerEffect.closing?

@[simp]
theorem closings_nil : closings [] = [] := rfl

@[simp]
theorem closings_append (first second : List ServerEffect) :
    closings (first ++ second) = closings first ++ closings second :=
  List.filterMap_append

@[simp]
theorem closings_closed (number : Nat) : closings [.closed number] = [number] := rfl

@[simp]
theorem closings_logged (messages : List Message) :
    closings (messages.map .logged) = [] := by
  simp [closings, ServerEffect.closing?, Function.comp_def]

@[simp]
theorem closings_effects (number : Nat) (output : ConnectionOutput) :
    closings (effects number output) = [] := by
  simp [closings, effects, ServerEffect.closing?, Function.comp_def]

theorem map_fst_replace (number : Nat) (connection : Connection)
    (live : List (Nat × Connection)) :
    (replace number connection live).map (·.1) = live.map (·.1) := by
  simp only [replace, List.map_map]
  apply List.map_congr_left
  intro entry _
  dsimp only [Function.comp_apply]
  split <;> simp_all

theorem mem_of_mem_replace {number : Nat} {connection : Connection}
    {live : List (Nat × Connection)} {entry : Nat × Connection}
    (mem : entry ∈ replace number connection live) :
    entry = (number, connection) ∨ entry ∈ live := by
  rcases List.mem_map.mp mem with ⟨old, oldMem, rfl⟩
  split
  · exact Or.inl rfl
  · exact Or.inr oldMem

theorem map_fst_drop (number : Nat) (live : List (Nat × Connection)) :
    (drop number live).map (·.1) = (live.map (·.1)).filter (· != number) := by
  simp only [drop, List.filter_map]
  rfl

theorem lookup_append_new {number new : Nat} (isOld : number ≠ new) (connection : Connection)
    (live : List (Nat × Connection)) :
    (live ++ [(new, connection)]).lookup number = live.lookup number := by
  have differ : (number == new) = false := by simpa using isOld
  simp [List.lookup_append, List.lookup, differ]

/-! ## The invariant -/

/-- A server keeps its accounts: the counter counts the live connections, these are the connections
that have come and that nothing of the past has closed, none was closed twice, and the limit, if
there is one, is kept. -/
structure Accounts (server : Server) (past : List ServerEffect) : Prop where
  counted : server.counter = server.live.length
  distinct : server.numbers.Nodup
  mem_numbers_iff : ∀ number,
    number ∈ server.numbers ↔ number < server.arrivals ∧ number ∉ closings past
  closedOnce : (closings past).Nodup
  closedAfterArrival : ∀ number ∈ closings past, number < server.arrivals
  alive : ∀ entry ∈ server.live, entry.2.isLive = true
  within : ∀ limit, server.limits.maxConnections = some limit →
    server.live.length ≤ limit.toNat

theorem accounts_start (service : Service) : (start service).Accounts [] where
  counted := rfl
  distinct := List.nodup_nil
  mem_numbers_iff := by simp [start, numbers]
  closedOnce := List.nodup_nil
  closedAfterArrival := by simp
  alive := by simp [start]
  within := by simp [start]

namespace Accounts

variable {past : List ServerEffect}

theorem stage_ne_crashed (accounts : server.Accounts past) {number : Nat}
    {connection : Connection} (found : server.live.lookup number = some connection) :
    connection.stage ≠ .crashed :=
  (Connection.isLive_iff.mp (accounts.alive _ (mem_of_lookup found))).2

theorem arrivals_not_mem_numbers (accounts : server.Accounts past) :
    server.arrivals ∉ server.numbers := by
  intro mem
  exact Nat.lt_irrefl _ ((accounts.mem_numbers_iff _).mp mem).1

theorem arrivals_not_mem_closings (accounts : server.Accounts past) :
    server.arrivals ∉ closings past := by
  intro closed
  exact Nat.lt_irrefl _ (accounts.closedAfterArrival _ closed)

/-- What neither opens nor closes a connection keeps the accounts. -/
theorem of_same (accounts : server.Accounts past) {other : Server} {more : List ServerEffect}
    (sameService : other.service = server.service) (sameCounter : other.counter = server.counter)
    (sameArrivals : other.arrivals = server.arrivals) (sameLive : other.live = server.live)
    (noClosings : closings more = []) : other.Accounts (past ++ more) := by
  have samePast : closings (past ++ more) = closings past := by simp [noClosings]
  constructor
  case counted =>
    rw [sameCounter, sameLive, accounts.counted]
  case distinct =>
    rw [numbers, sameLive]
    exact accounts.distinct
  case mem_numbers_iff =>
    intro number
    rw [numbers, sameLive, sameArrivals, samePast]
    exact accounts.mem_numbers_iff number
  case closedOnce =>
    rw [samePast]
    exact accounts.closedOnce
  case closedAfterArrival =>
    rw [sameArrivals, samePast]
    exact accounts.closedAfterArrival
  case alive =>
    rw [sameLive]
    exact accounts.alive
  case within =>
    rw [limits, sameService, sameLive]
    exact accounts.within

theorem replace (accounts : server.Accounts past) (number : Nat) {next : Connection}
    (live : next.isLive = true) (output : ConnectionOutput) :
    Accounts { server with live := Server.replace number next server.live }
      (past ++ effects number output) := by
  have sameNumbers :
      numbers { server with live := Server.replace number next server.live } = server.numbers :=
    map_fst_replace number next server.live
  have sameLength : (Server.replace number next server.live).length = server.live.length := by
    simp [Server.replace]
  constructor
  case counted =>
    rw [sameLength]
    exact accounts.counted
  case distinct =>
    rw [sameNumbers]
    exact accounts.distinct
  case mem_numbers_iff =>
    rw [sameNumbers]
    simpa using accounts.mem_numbers_iff
  case closedOnce =>
    simpa using accounts.closedOnce
  case closedAfterArrival =>
    simpa using accounts.closedAfterArrival
  case alive =>
    intro entry mem
    rcases mem_of_mem_replace mem with rfl | old
    · exact live
    · exact accounts.alive entry old
  case within =>
    rw [sameLength]
    exact accounts.within

theorem drop (accounts : server.Accounts past) {number : Nat} (mem : number ∈ server.numbers)
    (output : ConnectionOutput) :
    Accounts
      { server with
        counter := Admission.leave server.counter
        live := Server.drop number server.live }
      (past ++ (effects number output ++ [.closed number])) := by
  have fewer : (Server.drop number server.live).map (·.1) = server.numbers.erase number := by
    rw [map_fst_drop, accounts.distinct.erase_eq_filter, numbers]
  have oneLess : (Server.drop number server.live).length = server.live.length - 1 := by
    have erased := congrArg List.length fewer
    rw [List.length_map, List.length_erase_of_mem mem, numbers, List.length_map] at erased
    exact erased
  have notClosed := ((accounts.mem_numbers_iff number).mp mem).2
  constructor
  case counted =>
    rw [oneLess, Admission.leave, accounts.counted]
  case distinct =>
    rw [numbers, fewer]
    exact accounts.distinct.erase number
  case mem_numbers_iff =>
    intro other
    rw [numbers, fewer, accounts.distinct.mem_erase_iff, accounts.mem_numbers_iff]
    simp only [closings_append, closings_effects, closings_closed, List.nil_append,
      List.mem_append, List.mem_singleton, not_or]
    tauto
  case closedOnce =>
    simpa [List.nodup_append, accounts.closedOnce] using
      fun other closed (same : other = number) => notClosed (same ▸ closed)
  case closedAfterArrival =>
    intro other closed
    simp only [closings_append, closings_effects, closings_closed, List.nil_append,
      List.mem_append, List.mem_singleton] at closed
    rcases closed with old | rfl
    · exact accounts.closedAfterArrival other old
    · exact ((accounts.mem_numbers_iff other).mp mem).1
  case alive =>
    intro entry kept
    exact accounts.alive entry (List.mem_filter.mp kept).1
  case within =>
    intro limit limited
    have within := accounts.within limit limited
    rw [oneLess]
    omega

/-- Whatever happens on one connection keeps the accounts, if it is no fault. -/
theorem onConnection (accounts : server.Accounts past) (number : Nat)
    {react : Connection → Connection × ConnectionOutput} (survives : Connection.Survives react) :
    (server.onConnection number react).1.Accounts
      (past ++ (server.onConnection number react).2) := by
  cases found : server.live.lookup number with
  | none =>
      rw [onConnection_of_none found]
      simpa using accounts
  | some connection =>
      have notCrashed := survives connection (accounts.stage_ne_crashed found)
      by_cases live : (react connection).1.isLive = true
      · rw [onConnection_of_live found live]
        exact accounts.replace number live _
      · have ended : (react connection).1.stage = .ended := by
          by_contra notEnded
          exact live (Connection.isLive_iff.mpr ⟨notEnded, notCrashed⟩)
        rw [onConnection_of_ended found ended]
        exact accounts.drop (List.mem_map_of_mem (mem_of_lookup found)) _

theorem letIn (accounts : server.Accounts past)
    (verdict : Admission.verdict server.limits.maxConnections server.counter = .admitted)
    (peer : Endpoint) (messages : List Message) :
    (server.raise.letIn peer).Accounts (past ++ messages.map .logged) := by
  have isNew := accounts.arrivals_not_mem_numbers
  have notClosed := accounts.arrivals_not_mem_closings
  have oneMore : (server.raise.letIn peer).numbers = server.numbers ++ [server.arrivals] := by
    simp [raise, Server.letIn, numbers]
  constructor
  case counted =>
    simp [raise, Server.letIn, Admission.enter, accounts.counted]
  case distinct =>
    rw [oneMore]
    simpa [List.nodup_append, accounts.distinct] using
      fun other mem (same : other = server.arrivals) => isNew (same ▸ mem)
  case mem_numbers_iff =>
    intro number
    rw [oneMore, List.mem_append, List.mem_singleton, accounts.mem_numbers_iff]
    simp only [raise, Server.letIn, closings_append, closings_logged, List.append_nil]
    constructor
    · rintro (⟨came, unclosed⟩ | rfl)
      · exact ⟨by omega, unclosed⟩
      · exact ⟨by omega, notClosed⟩
    · rintro ⟨came, unclosed⟩
      by_cases last : number = server.arrivals
      · exact Or.inr last
      · exact Or.inl ⟨by omega, unclosed⟩
  case closedOnce =>
    simpa using accounts.closedOnce
  case closedAfterArrival =>
    intro number closed
    have came := accounts.closedAfterArrival number (by simpa using closed)
    exact Nat.lt_succ_of_lt came
  case alive =>
    intro entry mem
    rcases List.mem_append.mp mem with old | new
    · exact accounts.alive entry old
    · rw [List.mem_singleton.mp new]
      rfl
  case within =>
    intro limit limited
    have room : server.counter < limit.toNat := by
      have limited : server.limits.maxConnections = some limit := limited
      simpa [Admission.verdict, limited] using verdict
    simp only [raise, Server.letIn, List.length_append, List.length_singleton]
    rw [← accounts.counted]
    exact room

theorem turnAway (accounts : server.Accounts past) (message : Message) :
    Accounts { server with arrivals := server.arrivals + 1 }
      (past ++ [.logged message, .closed server.arrivals]) := by
  have closes : closings [.logged message, .closed server.arrivals] = [server.arrivals] := rfl
  have notClosed := accounts.arrivals_not_mem_closings
  constructor
  case counted => exact accounts.counted
  case distinct => exact accounts.distinct
  case mem_numbers_iff =>
    intro number
    have sameNumbers : number ∈ numbers { server with arrivals := server.arrivals + 1 } ↔
        number ∈ server.numbers := Iff.rfl
    rw [sameNumbers, accounts.mem_numbers_iff, closings_append, closes]
    simp only [List.mem_append, List.mem_singleton]
    constructor
    · rintro ⟨came, unclosed⟩
      refine ⟨by omega, ?_⟩
      rintro (closed | rfl)
      · exact unclosed closed
      · exact Nat.lt_irrefl _ came
    · rintro ⟨came, unclosed⟩
      exact ⟨by omega, fun closed => unclosed (Or.inl closed)⟩
  case closedOnce =>
    rw [closings_append, closes]
    simpa [List.nodup_append, accounts.closedOnce] using
      fun other closed (same : other = server.arrivals) => notClosed (same ▸ closed)
  case closedAfterArrival =>
    intro number closed
    rw [closings_append, closes, List.mem_append, List.mem_singleton] at closed
    rcases closed with old | rfl
    · exact Nat.lt_succ_of_lt (accounts.closedAfterArrival number old)
    · exact Nat.lt_succ_self _
  case alive => exact accounts.alive
  case within => exact accounts.within

/-- One step keeps the accounts. -/
theorem step (inMemory : server.service.catalogue.InMemory) (accounts : server.Accounts past)
    (event : ServerEvent) :
    (server.step event).1.Accounts (past ++ (server.step event).2) := by
  have stepped := server.stepped event
  generalize server.step event = result at stepped ⊢
  cases stepped with
  | reacts target => exact accounts.onConnection _ (event.survives_reaction inMemory _)
  | refuses notListening => exact accounts.of_same rfl rfl rfl rfl rfl
  | letsIn listens verdict => exact accounts.letIn verdict _ _
  | turnsAway listens verdict => exact accounts.turnAway _
  | proceeds isOfShutdown => exact accounts.of_same rfl rfl rfl rfl (closings_logged _)
  | stays messages => exact accounts.of_same rfl rfl rfl rfl (closings_logged messages)

/-- A whole run keeps the accounts. -/
theorem run (inMemory : server.service.catalogue.InMemory) (accounts : server.Accounts past)
    (events : List ServerEvent) :
    (server.run events).1.Accounts (past ++ (server.run events).2) := by
  induction events generalizing server past with
  | nil => simpa [Server.run] using accounts
  | cons event rest ih =>
      have inMemory' : (server.step event).1.service.catalogue.InMemory := by
        rw [service_step]
        exact inMemory
      rw [Server.run, ← List.append_assoc]
      exact ih inMemory' (accounts.step inMemory event)

/-! ## Places -/

/-- While nobody comes, whoever was live is live still or has been closed. -/
theorem perm_numbers (inMemory : server.service.catalogue.InMemory)
    (accounts : server.Accounts past) {events : List ServerEvent}
    (sameArrivals : (server.run events).1.arrivals = server.arrivals) :
    ((server.run events).1.numbers ++ closings (server.run events).2).Perm server.numbers := by
  have later := accounts.run inMemory events
  have notTwice := later.closedOnce
  rw [closings_append, List.nodup_append] at notTwice
  refine (List.perm_ext_iff_of_nodup ?_ accounts.distinct).mpr ?_
  · refine List.nodup_append.mpr ⟨later.distinct, notTwice.2.1, ?_⟩
    rintro number mem other closed rfl
    apply ((later.mem_numbers_iff number).mp mem).2
    simp [closed]
  · intro number
    rw [List.mem_append, later.mem_numbers_iff, accounts.mem_numbers_iff, sameArrivals,
      closings_append, List.mem_append, not_or]
    constructor
    · rintro (⟨came, unclosed, -⟩ | closed)
      · exact ⟨came, unclosed⟩
      · have came := later.closedAfterArrival number (by simp [closed])
        rw [sameArrivals] at came
        exact ⟨came, fun before => notTwice.2.2 number before number closed rfl⟩
    · rintro ⟨came, unclosed⟩
      by_cases closed : number ∈ closings (server.run events).2
      · exact Or.inr closed
      · exact Or.inl ⟨came, unclosed, closed⟩

theorem length_add_closings (inMemory : server.service.catalogue.InMemory)
    (accounts : server.Accounts past) {events : List ServerEvent}
    (sameArrivals : (server.run events).1.arrivals = server.arrivals) :
    (server.run events).1.live.length + (closings (server.run events).2).length =
      server.live.length := by
  have sameLength := (accounts.perm_numbers inMemory sameArrivals).length_eq
  simpa [numbers] using sameLength

/-- While nobody comes, a place that becomes free stays free. -/
theorem length_lt_of_freed (inMemory : server.service.catalogue.InMemory)
    (accounts : server.Accounts past) {events : List ServerEvent}
    (noArrivals : ∀ peer, .arrival peer ∉ events) {freed : Nat}
    (closed : freed ∈ closings (server.run events).2) :
    (server.run events).1.live.length < server.live.length := by
  have balance := accounts.length_add_closings inMemory (arrivals_run_of_no_arrivals noArrivals)
  have positive := List.length_pos_of_mem closed
  omega

end Accounts

end Server

end RangeServer
