import Mathlib.Algebra.Group.Nat.Basic
import Mathlib.Data.List.Count
import Mathlib.Order.Basic

/-! # `EmbeddedServer`: `New`, `Start` and `Stop`

`New` creates the datastore and the cancellation scope `es.ctx` once. `Start` completes the
server configuration, launches the serve task on `es.ctx`, dials a connection with
`dialWithRetry` and binds a fresh `SchemaReloader` to it; a failed dial cancels `es.ctx`. `Stop`
closes the connection, cancels `es.ctx`, waits for the serve task and closes the datastore. Both
hold `es.mu` for writing throughout, so a sequence of calls is a sequence of whole calls; the other
calls read these fields and write none of them.
-/

namespace EmbedSpiceDB.Server

/-! ## `dialWithRetry` -/

def maxRetries : Nat := 10

/-- `initialBackoff`, in milliseconds. -/
def initialBackoff : Nat := 10

/-- `maxBackoff`, in milliseconds. -/
def maxBackoff : Nat := 500

/-- What `dialWithRetry` gets from outside. -/
structure DialEnv where
  /-- The error of `es.server.GRPCDialContext` at each attempt, `none` when it connects. -/
  dial : Nat → Option String
  /-- `ctx.Err()` when the caller's `ctx` is done at the wait after an attempt. -/
  callerDone : Nat → Option String

/-- The loop of `dialWithRetry` at attempt `i`, with `remaining` attempts left: whether it
connected, and the backoffs it waited. `cancelled` is whether `es.ctx` is done: `select` takes a
done context at once, before the backoff timer can fire. -/
def dialLoop (env : DialEnv) (cancelled : Bool) :
    (remaining i backoff : Nat) → (lastErr : String) → Except String Unit × List Nat
  | 0, _, _, lastErr => (.error s!"failed after {maxRetries} retries: {lastErr}", [])
  | remaining + 1, i, backoff, _ =>
    match env.dial i with
    | none => (.ok (), [])
    | some err =>
      match env.callerDone i with
      | some ctxErr => (.error ctxErr, [])
      | none =>
        if cancelled then (.error "context canceled", [])
        else
          let doubled := backoff * 2
          let next := dialLoop env cancelled remaining (i + 1)
            (if doubled > maxBackoff then maxBackoff else doubled) err
          (next.1, backoff :: next.2)

/-- `dialWithRetry`. -/
def dialWithRetry (env : DialEnv) (cancelled : Bool) : Except String Unit × List Nat :=
  dialLoop env cancelled maxRetries 0 initialBackoff ""

/-- A first attempt that connects succeeds, whether or not `es.ctx` was cancelled. -/
theorem dialWithRetry_first (env : DialEnv) (cancelled : Bool) (connects : env.dial 0 = none) :
    (dialWithRetry env cancelled).1 = .ok () := by
  simp [dialWithRetry, maxRetries, dialLoop, connects]

/-- The loop waits at most once per attempt, and never longer than `maxBackoff`. -/
theorem dialLoop_waits (env : DialEnv) (cancelled : Bool) (remaining i backoff : Nat) (lastErr : String)
    (capped : backoff ≤ maxBackoff) :
    (dialLoop env cancelled remaining i backoff lastErr).2.length ≤ remaining ∧
      ∀ wait ∈ (dialLoop env cancelled remaining i backoff lastErr).2, wait ≤ maxBackoff := by
  induction remaining generalizing i backoff lastErr with
  | zero => simp [dialLoop]
  | succ remaining ih =>
    unfold dialLoop
    split
    · simp
    · split
      · simp
      · split
        · simp
        · have next := ih (i + 1) (if backoff * 2 > maxBackoff then maxBackoff else backoff * 2) ‹_›
            (by split <;> omega)
          simp only [List.length_cons, List.mem_cons, forall_eq_or_imp]
          exact ⟨by omega, capped, next.2⟩

/-- The backoff after the `attempt`-th failed attempt: `initialBackoff` doubled at each attempt and
capped at `maxBackoff`. -/
def backoffAt (attempt : Nat) : Nat :=
  if initialBackoff * 2 ^ attempt > maxBackoff then maxBackoff else initialBackoff * 2 ^ attempt

/-- The doubling and capping of the loop computes the next backoff of the schedule. -/
theorem backoffAt_succ (attempt : Nat) :
    (if backoffAt attempt * 2 > maxBackoff then maxBackoff else backoffAt attempt * 2) =
      backoffAt (attempt + 1) := by
  simp only [backoffAt, Nat.pow_succ, initialBackoff, maxBackoff]
  split <;> split <;> split <;> omega

/-- An attempt after which the loop waits and goes on: it fails, and neither context is done. -/
def Retries (env : DialEnv) (cancelled : Bool) (attempt : Nat) : Prop :=
  (env.dial attempt).isSome ∧ env.callerDone attempt = none ∧ cancelled = false

/-- An attempt that does not retry ends the loop, which connects exactly when that attempt does. -/
theorem dialLoop_stops {env : DialEnv} {cancelled : Bool} {remaining i backoff : Nat} {lastErr : String}
    (stops : ¬Retries env cancelled i) :
    (dialLoop env cancelled (remaining + 1) i backoff lastErr).2 = [] ∧
      ((dialLoop env cancelled (remaining + 1) i backoff lastErr).1 = .ok () ↔ env.dial i = none) := by
  simp only [Retries, not_and, Bool.not_eq_false] at stops
  rw [dialLoop]
  cases dialed : env.dial i with
  | none => simp
  | some err =>
    cases done : env.callerDone i with
    | some ctxErr => simp
    | none => simp [stops (by simp [dialed]) done]

/-- The loop goes on through the attempts that retry, waiting the scheduled backoff after each, and
stops at the first other one, or when no attempt is left; it connects exactly when it stops at an
attempt that connects. -/
theorem dialLoop_schedule (env : DialEnv) (cancelled : Bool) (remaining i : Nat) (lastErr : String) :
    ∃ n ≤ remaining,
      (dialLoop env cancelled remaining i (backoffAt i) lastErr).2 = (List.range' i n).map backoffAt ∧
      (∀ j < n, Retries env cancelled (i + j)) ∧ (n < remaining → ¬Retries env cancelled (i + n)) ∧
      ((dialLoop env cancelled remaining i (backoffAt i) lastErr).1 = .ok () ↔
        n < remaining ∧ env.dial (i + n) = none) := by
  induction remaining generalizing i lastErr with
  | zero => exact ⟨0, Nat.le_refl 0, rfl, by simp, by simp, by simp [dialLoop]⟩
  | succ remaining ih =>
    by_cases retries : Retries env cancelled i
    · obtain ⟨dialSome, notDone, rfl⟩ := retries
      obtain ⟨err, dialed⟩ := Option.isSome_iff_exists.mp dialSome
      obtain ⟨n, bound, waits, later, stops, connects⟩ := ih (i + 1) err
      have unrolled : dialLoop env false (remaining + 1) i (backoffAt i) lastErr =
          ((dialLoop env false remaining (i + 1) (backoffAt (i + 1)) err).1,
            backoffAt i :: (dialLoop env false remaining (i + 1) (backoffAt (i + 1)) err).2) := by
        simp [dialLoop, dialed, notDone, backoffAt_succ]
      have shift : ∀ j, i + 1 + j = i + (j + 1) := fun j => by omega
      refine ⟨n + 1, by omega, ?_, fun j lt => ?_, fun lt => ?_, ?_⟩
      · rw [unrolled, waits, List.range'_succ, List.map_cons]
      · cases j with
        | zero => exact ⟨dialSome, notDone, rfl⟩
        | succ j => simpa [shift] using later j (by omega)
      · simpa [shift] using stops (by omega)
      · rw [unrolled, connects, shift]
        simp
    · -- the attempt `i` ends the loop
      refine ⟨0, by omega, (dialLoop_stops retries).1, by simp, fun _ => retries, ?_⟩
      rw [(dialLoop_stops retries).2]
      simp

/-- When every attempt retries, the loop returns the error of the last one. -/
theorem dialLoop_exhausted (env : DialEnv) (cancelled : Bool) (remaining i backoff : Nat)
    (lastErr : String) (retries : ∀ j < remaining + 1, Retries env cancelled (i + j)) :
    ∃ err, env.dial (i + remaining) = some err ∧
      (dialLoop env cancelled (remaining + 1) i backoff lastErr).1 =
        .error s!"failed after {maxRetries} retries: {err}" := by
  induction remaining generalizing i backoff lastErr with
  | zero =>
    have first : Retries env cancelled i := retries 0 (Nat.succ_pos 0)
    obtain ⟨dialSome, notDone, rfl⟩ := first
    obtain ⟨err, dialed⟩ := Option.isSome_iff_exists.mp dialSome
    exact ⟨err, dialed, by simp [dialLoop, dialed, notDone]⟩
  | succ remaining ih =>
    have first : Retries env cancelled i := retries 0 (Nat.succ_pos _)
    obtain ⟨dialSome, notDone, rfl⟩ := first
    obtain ⟨err, dialed⟩ := Option.isSome_iff_exists.mp dialSome
    rw [dialLoop]
    simp only [dialed, notDone, Bool.false_eq_true, if_false]
    obtain ⟨last, lastDialed, failed⟩ := ih (i + 1) _ err fun j lt => by
      simpa [Nat.add_right_comm i 1 j, Nat.add_assoc] using retries (j + 1) (by omega)
    exact ⟨last, by rwa [Nat.add_right_comm, Nat.add_assoc] at lastDialed, failed⟩

/-- `dialWithRetry` dials until an attempt connects, or fails while a context is done, for at most
`maxRetries` attempts; after each failed attempt it goes on with, it waits `10·2^i` ms, capped at
`maxBackoff`, also after the last one. It connects exactly when it stops at an attempt that
connects, and when every attempt fails it returns the error of the last one. -/
theorem dialWithRetry_schedule (env : DialEnv) (cancelled : Bool) :
    ∃ n ≤ maxRetries, (dialWithRetry env cancelled).2 = (List.range n).map backoffAt ∧
      (∀ j < n, Retries env cancelled j) ∧ (n < maxRetries → ¬Retries env cancelled n) ∧
      ((dialWithRetry env cancelled).1 = .ok () ↔ n < maxRetries ∧ env.dial n = none) ∧
      (n = maxRetries → ∃ err, env.dial (maxRetries - 1) = some err ∧
        (dialWithRetry env cancelled).1 = .error s!"failed after {maxRetries} retries: {err}") := by
  obtain ⟨n, bound, waits, retries, stops, connects⟩ := dialLoop_schedule env cancelled maxRetries 0 ""
  simp only [Nat.zero_add, ← List.range_eq_range'] at waits retries stops connects
  refine ⟨n, bound, waits, retries, stops, connects, fun exhausted => ?_⟩
  subst exhausted
  exact dialLoop_exhausted env cancelled 9 0 initialBackoff "" fun j lt => by simpa using retries j lt

/-! ## The server -/

/-- A handle that `Stop` closes. -/
inductive Handle where
  /-- The datastore `New` created. -/
  | datastore
  /-- The connection of the `id`-th successful dial. -/
  | conn (id : Nat)
deriving DecidableEq, Repr

/-- The fields of `EmbeddedServer` that `Start` and `Stop` write, with every `Close` so far. -/
structure EmbeddedServer where
  started : Bool
  /-- `es.ctx` has been cancelled; the serve task returns once it is. -/
  cancelled : Bool
  /-- `es.conn`, as the number of the dial that made it. -/
  conn : Option Nat
  /-- The connection `es.reloader` was made with. -/
  reloader : Option Nat
  /-- Every `Close` call so far, in order. -/
  closed : List Handle
  /-- Successful dials so far: the next connection's number. -/
  dials : Nat
deriving DecidableEq, Repr

namespace EmbeddedServer

/-- A successful `New`. -/
def new : EmbeddedServer := ⟨false, false, none, none, [], 0⟩

/-- `Start`: the state after it and its error, if any. `complete` is the error of
`serverConfig.Complete`, if any. -/
def start (complete : Option String) (dialEnv : DialEnv) (es : EmbeddedServer) :
    EmbeddedServer × Option String :=
  if es.started then (es, some "server is already started")
  else
    match complete with
    | some err => (es, some s!"failed to complete server configuration: {err}")
    | none =>
      match (dialWithRetry dialEnv es.cancelled).1 with
      | .error err => ({ es with cancelled := true }, some s!"failed to dial server: {err}")
      | .ok () =>
        ({ es with conn := some es.dials, reloader := some es.dials, dials := es.dials + 1,
                   started := true }, none)

/-- `Stop`. -/
def stop (es : EmbeddedServer) : EmbeddedServer :=
  if !es.started then es
  else
    { es with closed := es.closed ++ (es.conn.map .conn).toList ++ [.datastore], cancelled := true,
              started := false }

@[simp] theorem stop_started (es : EmbeddedServer) : es.stop.started = false := by
  unfold stop; split <;> simp_all

@[simp] theorem stop_conn (es : EmbeddedServer) : es.stop.conn = es.conn := by
  unfold stop; split <;> rfl

@[simp] theorem stop_dials (es : EmbeddedServer) : es.stop.dials = es.dials := by
  unfold stop; split <;> rfl

end EmbeddedServer

open EmbeddedServer

/-- A call on the server. -/
inductive Call where
  | start (complete : Option String) (dialEnv : DialEnv)
  | stop
  | client
  | reloadSchema
  | onSchemaReloaded
  | healthCheck

/-- The state after a call; `Client`, `ReloadSchema`, `OnSchemaReloaded` and `HealthCheck` write
none of the fields. -/
def call (es : EmbeddedServer) : Call → EmbeddedServer
  | .start complete dialEnv => (es.start complete dialEnv).1
  | .stop => es.stop
  | .client | .reloadSchema | .onSchemaReloaded | .healthCheck => es

/-- The state after a sequence of calls. -/
def run (es : EmbeddedServer) (calls : List Call) : EmbeddedServer := calls.foldl call es

/-! ## Connections -/

/-- `Start` leaves the server as it was, only cancels `es.ctx`, or connects a stopped server. -/
theorem start_cases (complete : Option String) (dialEnv : DialEnv) (es : EmbeddedServer) :
    (es.start complete dialEnv).1 = es ∨ (es.start complete dialEnv).1 = { es with cancelled := true } ∨
      es.started = false ∧
        (es.start complete dialEnv).1 =
          { es with conn := some es.dials, reloader := some es.dials, dials := es.dials + 1,
                    started := true } := by
  unfold start
  split
  · exact .inl rfl
  · rename_i stopped
    split
    · exact .inl rfl
    · split
      · exact .inr (.inl rfl)
      · exact .inr (.inr ⟨by simpa using stopped, rfl⟩)

/-- A failed `Start` leaves `started` as it was; a successful one starts a stopped server. -/
theorem start_started (complete : Option String) (dialEnv : DialEnv) (es : EmbeddedServer) :
    ((es.start complete dialEnv).2.isSome → (es.start complete dialEnv).1.started = es.started) ∧
      ((es.start complete dialEnv).2 = none →
        es.started = false ∧ (es.start complete dialEnv).1.started = true) := by
  unfold start
  split
  · simp_all
  · split
    · simp
    · split <;> simp_all

/-- What every sequence of calls keeps of the connections. -/
structure ConnInvariant (es : EmbeddedServer) : Prop where
  /-- A started server holds an open connection, and its reloader is bound to it. -/
  bound : es.started = true → ∃ id, es.conn = some id ∧ es.reloader = some id ∧ .conn id ∉ es.closed
  connDialled : ∀ id, es.conn = some id → id < es.dials
  closedDialled : ∀ id, .conn id ∈ es.closed → id < es.dials
  closedOnce : ∀ id, es.closed.count (.conn id) ≤ 1

theorem connInvariant_new : ConnInvariant new :=
  ⟨by simp [new], by simp [new], by simp [new], by simp [new]⟩

theorem ConnInvariant.start {es : EmbeddedServer} (invariant : ConnInvariant es)
    (complete : Option String) (dialEnv : DialEnv) : ConnInvariant (es.start complete dialEnv).1 := by
  obtain ⟨bound, connDialled, closedDialled, closedOnce⟩ := invariant
  rcases start_cases complete dialEnv es with same | cancelled | ⟨-, connected⟩
  · rw [same]
    exact ⟨bound, connDialled, closedDialled, closedOnce⟩
  · rw [cancelled]
    exact ⟨bound, connDialled, closedDialled, closedOnce⟩
  · rw [connected]
    refine ⟨fun _ => ⟨es.dials, rfl, rfl, fun closed => ?_⟩, by simp, fun id closed => ?_, closedOnce⟩
    · exact absurd (closedDialled _ closed) (Nat.lt_irrefl _)
    · exact Nat.lt_succ_of_lt (closedDialled id closed)

/-- `Stop` of a started server closes its connection, then the datastore. -/
theorem closed_stop {es : EmbeddedServer} {id : Nat} (started : es.started = true)
    (current : es.conn = some id) : es.stop.closed = es.closed ++ [.conn id, .datastore] := by
  simp [EmbeddedServer.stop, started, current]

theorem ConnInvariant.stop {es : EmbeddedServer} (invariant : ConnInvariant es) :
    ConnInvariant es.stop := by
  obtain ⟨bound, connDialled, closedDialled, closedOnce⟩ := invariant
  cases started : es.started
  · simp only [EmbeddedServer.stop, started, Bool.not_false, if_true]
    exact ⟨bound, connDialled, closedDialled, closedOnce⟩
  · obtain ⟨open_, current, -, notClosed⟩ := bound started
    refine ⟨by simp, by simpa using connDialled, fun id closed => ?_, fun id => ?_⟩ <;>
      rw [closed_stop started current] at *
    · rw [stop_dials]
      simp only [List.mem_append, List.mem_cons, Handle.conn.injEq, List.mem_singleton,
        reduceCtorEq, or_false, List.not_mem_nil] at closed
      rcases closed with earlier | rfl
      · exact closedDialled id earlier
      · exact connDialled _ current
    · by_cases same : id = open_
      · subst same
        simp [List.count_eq_zero_of_not_mem notClosed]
      · simpa [same] using closedOnce id

/-- In every state a sequence of calls reaches from `New`, a started server holds an open
connection with its reloader bound to it, and no connection has been closed twice. -/
theorem connInvariant_run (calls : List Call) : ConnInvariant (run new calls) := by
  suffices ∀ es, ConnInvariant es → ConnInvariant (run es calls) from this _ connInvariant_new
  induction calls with
  | nil => exact fun _ invariant => invariant
  | cons first rest ih =>
    intro es invariant
    apply ih
    cases first with
    | start complete dialEnv => exact invariant.start complete dialEnv
    | stop => exact invariant.stop
    | _ => exact invariant

/-! ## `Client` -/

/-- `Client`: the connection, or the error. -/
def EmbeddedServer.client (es : EmbeddedServer) : Except String Nat :=
  if !es.started then .error "server is not started"
  else
    match es.conn with
    | none => .error "no connection available"
    | some id => .ok id

/-- On a server that keeps `ConnInvariant`, `Client` fails exactly when the server is not started,
and otherwise returns its open connection: its `no connection available` branch is dead. -/
theorem ConnInvariant.client {es : EmbeddedServer} (invariant : ConnInvariant es) :
    (es.started = false ∧ es.client = .error "server is not started") ∨
      ∃ id, es.started = true ∧ es.client = .ok id ∧ .conn id ∉ es.closed := by
  cases started : es.started
  · exact .inl ⟨rfl, by simp [EmbeddedServer.client, started]⟩
  · obtain ⟨id, conn, -, notClosed⟩ := invariant.bound started
    exact .inr ⟨id, rfl, by simp [EmbeddedServer.client, started, conn], notClosed⟩

/-- A second `Stop` finds the server stopped and closes nothing more. -/
theorem stop_stop (es : EmbeddedServer) : es.stop.stop = es.stop := by
  have stopped := stop_started es
  generalize es.stop = once at stopped ⊢
  simp [EmbeddedServer.stop, stopped]

/-- `Start` on a started server fails with `server is already started` and changes nothing, so
`Client` still returns the open connection. -/
theorem ConnInvariant.start_started {es : EmbeddedServer} (invariant : ConnInvariant es)
    (started : es.started = true) (complete : Option String) (dialEnv : DialEnv) :
    es.start complete dialEnv = (es, some "server is already started") ∧
      ∃ id, (es.start complete dialEnv).1.client = .ok id ∧ .conn id ∉ es.closed := by
  have unchanged : es.start complete dialEnv = (es, some "server is already started") := by
    simp [EmbeddedServer.start, started]
  refine ⟨unchanged, ?_⟩
  rcases invariant.client with ⟨stopped, -⟩ | ⟨id, -, connected, notClosed⟩
  · exact Bool.noConfusion (started.symm.trans stopped)
  · exact ⟨id, by rw [unchanged]; exact connected, notClosed⟩

/-! ## Restarting -/

/-- A dial whose first attempt connects. -/
def connectAtOnce : DialEnv := ⟨fun _ => none, fun _ => none⟩

/-- A dial that never connects, in a caller context that is never done. -/
def neverConnects : DialEnv := ⟨fun _ => some "connection refused", fun _ => none⟩

/-- `New`, `Start`, `Stop`, `Start`. -/
def restartCalls : List Call := [.start none connectAtOnce, .stop, .start none connectAtOnce]

/-- `New`, a `Start` whose dial fails, `Start`. -/
def retryCalls : List Call := [.start none neverConnects, .start none connectAtOnce]

/-- `Start` after `Stop` serves on the `es.ctx` that `Stop` cancelled, with the datastore `Stop`
closed, and the next `Stop` closes that datastore again; `Start` after a failed dial serves on the
`es.ctx` the failure cancelled. -/
theorem restart_reuses_cancelled_context :
    (run new restartCalls).started = true ∧ (run new restartCalls).cancelled = true ∧
      Handle.datastore ∈ (run new restartCalls).closed ∧
      (run new restartCalls).stop.closed.count Handle.datastore = 2 ∧
      (run new retryCalls).started = true ∧ (run new retryCalls).cancelled = true := by
  decide

/-- Nothing renews `es.ctx`: once cancelled, it stays so. -/
theorem run_cancelled {es : EmbeddedServer} (cancelled : es.cancelled = true) (calls : List Call) :
    (run es calls).cancelled = true := by
  induction calls generalizing es with
  | nil => exact cancelled
  | cons first rest ih =>
    apply ih
    cases first with
    | start complete dialEnv =>
      rcases start_cases complete dialEnv es with same | cancelledNow | ⟨-, connected⟩ <;>
        simp only [call, *]
    | stop =>
      show es.stop.cancelled = true
      unfold EmbeddedServer.stop
      split <;> simp [cancelled]
    | _ => exact cancelled

/-- On a cancelled `es.ctx`, `dialWithRetry` makes one attempt and never waits: the first failure
returns the caller's context error, or `context canceled`. -/
theorem dialWithRetry_cancelled (env : DialEnv) :
    (dialWithRetry env true).2 = [] ∧
      (dialWithRetry env true).1 =
        match env.dial 0 with
        | none => .ok ()
        | some _ => .error ((env.callerDone 0).getD "context canceled") := by
  show (dialLoop env true (9 + 1) 0 initialBackoff "").2 = [] ∧
    (dialLoop env true (9 + 1) 0 initialBackoff "").1 = _
  rw [dialLoop]
  cases env.dial 0 with
  | none => simp
  | some err => cases env.callerDone 0 <;> simp

/-- `es.ctx` is never renewed: after a `Stop` or a failed dial has cancelled it, every later `Start`
of the stopped server that completes its configuration dials once, without waiting, and succeeds
exactly when that attempt connects; otherwise it fails with the caller's context error or
`context canceled`. A `Start` whose `serverConfig.Complete` fails returns that error and dials
nothing. -/
theorem start_after_cancel {es : EmbeddedServer} (cancelled : es.cancelled = true) (calls : List Call)
    (stopped : (run es calls).started = false) (complete : Option String) (env : DialEnv) :
    (dialWithRetry env (run es calls).cancelled).2 = [] ∧
      ((run es calls).start complete env).2 =
        match complete with
        | some err => some ("failed to complete server configuration: " ++ err)
        | none => (env.dial 0).map fun _ =>
            "failed to dial server: " ++ (env.callerDone 0).getD "context canceled" := by
  rw [run_cancelled cancelled calls]
  obtain ⟨waits, dialled⟩ := dialWithRetry_cancelled env
  refine ⟨waits, ?_⟩
  cases complete with
  | some err => simp [EmbeddedServer.start, stopped, toString, String.append_empty]
  | none =>
    simp only [EmbeddedServer.start, stopped, run_cancelled cancelled calls, dialled]
    cases env.dial 0 <;> simp [toString, String.append_empty]

/-- After `Start` and `Stop`, a restart whose first dial is refused fails at once, with
`context canceled`, instead of waiting for the server it has just launched. -/
theorem restart_fails_at_first_refusal :
    let es := run new [.start none connectAtOnce, .stop]
    es.cancelled = true ∧ (run es []).started = false ∧
      (dialWithRetry neverConnects (run es []).cancelled).2 = [] ∧
      ((run es []).start none neverConnects).2 =
        (neverConnects.dial 0).map fun _ =>
          "failed to dial server: " ++ (neverConnects.callerDone 0).getD "context canceled" :=
  ⟨by decide, by decide, start_after_cancel (by decide) [] (by decide) none neverConnects⟩

end EmbedSpiceDB.Server
