import RangeServer.Proofs.LiveConnections

/-!
# Following one connection

What a run does on the wire of one connection, and what the server still knows about it, does not
hang on the other connections. A step about a connection is its own reaction
(`Server.onConnection_self`); every other step neither touches the connection nor sends anything on
it (`Server.step_elsewhere`).
-/

namespace RangeServer

/-- The connection on whose wire an effect is seen. -/
def ServerEffect.wire? : ServerEffect → Option Nat
  | .sent number _ => some number
  | .closed number => some number
  | _ => none

namespace Server

variable {server : Server} {number other : Nat}

/-! ## Wires -/

/-- What effects do on the wire of one connection, in order. -/
def onWire (number : Nat) (effects : List ServerEffect) : List ServerEffect :=
  effects.filter (·.wire? == some number)

@[simp]
theorem onWire_nil (number : Nat) : onWire number [] = [] := rfl

@[simp]
theorem onWire_append (number : Nat) (first second : List ServerEffect) :
    onWire number (first ++ second) = onWire number first ++ onWire number second :=
  List.filter_append first second

@[simp]
theorem onWire_logged (number : Nat) (messages : List Message) :
    onWire number (messages.map .logged) = [] := by
  simp [onWire, ServerEffect.wire?, List.filter_eq_nil_iff]

@[simp]
theorem onWire_effects (number : Nat) (output : ConnectionOutput) :
    onWire number (effects number output) = output.sent.map (.sent number) := by
  rw [effects, onWire_append, onWire_logged, List.append_nil]
  simp [onWire, ServerEffect.wire?, List.filter_eq_self]

theorem onWire_effects_of_ne (differ : other ≠ number) (output : ConnectionOutput) :
    onWire other (effects number output) = [] := by
  rw [effects, onWire_append, onWire_logged, List.append_nil]
  simp [onWire, ServerEffect.wire?, List.filter_eq_nil_iff, differ.symm]

theorem onWire_closed_self (number : Nat) : onWire number [.closed number] = [.closed number] := by
  simp [onWire, ServerEffect.wire?]

theorem onWire_closed_of_ne (differ : other ≠ number) : onWire other [.closed number] = [] := by
  simp [onWire, ServerEffect.wire?, differ.symm]

/-- What a reaction does on the wire of its connection: its responses, and the end, if it has
ended. -/
def reacted (number : Nat) (result : Connection × ConnectionOutput) : List ServerEffect :=
  result.2.sent.map (.sent number) ++ if result.1.isLive then [] else [.closed number]

/-- What is left of a connection: all of it while it is live, else nothing. -/
def left (connection : Connection) : Option Connection :=
  if connection.isLive then some connection else none

/-! ## Finding a connection -/

theorem lookup_replace_self {live : List (Nat × Connection)} {connection : Connection}
    (found : live.lookup number = some connection) (next : Connection) :
    (replace number next live).lookup number = some next := by
  induction live with
  | nil => cases found
  | cons entry rest ih =>
      by_cases same : entry.1 = number
      · simp [replace, same]
      · have differ : (number == entry.1) = false := by simpa using Ne.symm same
        simp only [List.lookup, differ] at found
        simpa [replace, same, List.lookup, differ] using ih found

theorem lookup_replace_of_ne (differ : other ≠ number) (next : Connection)
    (live : List (Nat × Connection)) :
    (replace number next live).lookup other = live.lookup other := by
  induction live with
  | nil => rfl
  | cons entry rest ih =>
      have rest : (List.map _ rest).lookup other = rest.lookup other := ih
      by_cases same : entry.1 = number
      · have differs : (other == number) = false := by simpa using differ
        simp [replace, same, List.lookup, differs, rest]
      · simp [replace, same, List.lookup, rest]

theorem lookup_drop_self (number : Nat) (live : List (Nat × Connection)) :
    (drop number live).lookup number = none := by
  rw [List.lookup_eq_none_iff]
  intro entry mem
  have differ : entry.1 ≠ number := bne_iff_ne.mp (List.mem_filter.mp mem).2
  exact bne_iff_ne.mpr differ.symm

theorem lookup_drop_of_ne (differ : other ≠ number) (live : List (Nat × Connection)) :
    (drop number live).lookup other = live.lookup other := by
  induction live with
  | nil => rfl
  | cons entry rest ih =>
      have rest : (List.filter _ rest).lookup other = rest.lookup other := ih
      by_cases same : entry.1 = number
      · have differs : (other == number) = false := by simpa using differ
        simp [drop, same, List.lookup, differs, rest]
      · simp [drop, same, List.lookup, rest]

/-! ## One step -/

/-- A connection that is live reacts, and the server keeps what is left of it. -/
theorem onConnection_self {connection : Connection}
    (found : server.live.lookup number = some connection)
    (react : Connection → Connection × ConnectionOutput) :
    (server.onConnection number react).1.live.lookup number = left (react connection).1 ∧
      onWire number (server.onConnection number react).2 = reacted number (react connection) := by
  cases stage : (react connection).1.stage <;>
    simp [onConnection, found, settle, left, reacted, Connection.isLive, stage,
      lookup_replace_self found, lookup_drop_self, onWire_closed_self]

theorem onConnection_other (differ : other ≠ number)
    (react : Connection → Connection × ConnectionOutput) :
    (server.onConnection number react).1.live.lookup other = server.live.lookup other ∧
      onWire other (server.onConnection number react).2 = [] := by
  cases found : server.live.lookup number with
  | none => simp [onConnection_of_none found]
  | some connection =>
      cases stage : (react connection).1.stage <;>
        simp [onConnection, found, settle, stage, lookup_replace_of_ne differ,
          lookup_drop_of_ne differ, onWire_effects_of_ne differ, onWire_closed_of_ne differ]

/-- No connection that comes will get this number: it belongs to one that has come, or none comes
any more. -/
def Spares (server : Server) (number : Nat) : Prop :=
  server.listens = true → number < server.arrivals

theorem spares_of_not_listens (notListening : server.listens = false) (number : Nat) :
    server.Spares number := by
  intro listens
  rw [notListening] at listens
  cases listens

theorem Spares.step (spares : server.Spares number) (event : ServerEvent) :
    (server.step event).1.Spares number := by
  intro listensThen
  have listens : server.listens = true := by
    by_contra notListening
    rw [listens_step_of_not_listens (by simpa using notListening)] at listensThen
    cases listensThen
  exact Nat.lt_of_lt_of_le (spares listens) (arrivals_le_arrivals_step server event)

/-- A step about another connection, or about none, leaves a connection alone. -/
theorem step_elsewhere (spares : server.Spares number) {event : ServerEvent}
    (elsewhere : event.target? ≠ some number) :
    (server.step event).1.live.lookup number = server.live.lookup number ∧
      onWire number (server.step event).2 = [] := by
  have stepped := server.stepped event
  generalize server.step event = result at stepped ⊢
  cases stepped with
  | reacts target =>
      refine onConnection_other ?_ _
      rintro rfl
      exact elsewhere target
  | refuses notListening => exact ⟨rfl, rfl⟩
  | letsIn listens verdict =>
      have isOld := Nat.ne_of_lt (spares listens)
      exact ⟨lookup_append_new isOld _ _, onWire_logged number _⟩
  | turnsAway listens verdict =>
      have isOld := Nat.ne_of_lt (spares listens)
      exact ⟨rfl, onWire_closed_of_ne isOld⟩
  | proceeds isOfShutdown => exact ⟨rfl, onWire_logged number _⟩
  | stays messages => exact ⟨rfl, onWire_logged number messages⟩

/-- A connection that is gone is never heard of again. -/
theorem onWire_run_of_gone (spares : server.Spares number)
    (gone : server.live.lookup number = none) (events : List ServerEvent) :
    onWire number (server.run events).2 = [] := by
  induction events generalizing server with
  | nil => rfl
  | cons event rest ih =>
      have silent : (server.step event).1.live.lookup number = none ∧
          onWire number (server.step event).2 = [] := by
        by_cases here : event.target? = some number
        · rw [step_of_target here, onConnection_of_none gone]
          exact ⟨gone, rfl⟩
        · rw [← gone]
          exact step_elsewhere spares here
      rw [run, onWire_append, silent.2]
      exact ih (spares.step event) silent.1

/-- What happens elsewhere leaves a connection alone. -/
theorem run_elsewhere (spares : server.Spares number) {events : List ServerEvent}
    (elsewhere : ∀ event ∈ events, event.target? ≠ some number) :
    (server.run events).1.live.lookup number = server.live.lookup number ∧
      onWire number (server.run events).2 = [] := by
  induction events generalizing server with
  | nil => exact ⟨rfl, rfl⟩
  | cons event rest ih =>
      rcases step_elsewhere spares (elsewhere event List.mem_cons_self) with ⟨sameFound, silent⟩
      rcases ih (spares.step event) fun other mem => elsewhere other (List.mem_cons_of_mem _ mem)
        with ⟨restFound, restSilent⟩
      rw [run, onWire_append, silent, restSilent]
      exact ⟨restFound.trans sameFound, rfl⟩

end Server

end RangeServer
