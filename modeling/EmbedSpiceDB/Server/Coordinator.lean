import EmbedSpiceDB.Server.Config

/-! # `Start` and `Stop` with their optional steps

Once `Start` has a connection, it makes a `FileWatcher` with `NewFileWatcher` and starts it when
schema files are configured, and then, when `HealthCheckEnabled`, starts the health HTTP server
with `healthhttp.Start`. Each of these may fail. The failure is only logged, `Start` still
succeeds, and a watcher whose `Start` failed is stopped at once. `Stop` shuts down `es.healthSrv`,
and keeps it when `Shutdown` fails. It stops `es.watcher`, which it never clears, and then does
what `EmbeddedServer.stop` does.

A watcher holds its fsnotify watcher from `NewFileWatcher` to its first `Stop`. A failed
`NewFileWatcher` closes what it opened. A health server holds its listener from `healthhttp.Start`
to its first `Shutdown`, which closes the listener whether or not it returns an error. The
coordinator counts the `Stop` calls of every watcher it made and the `Shutdown` calls of every
health server; its lifecycle fields are those of `EmbeddedServer`, which its calls move as
`EmbeddedServer.start` and `EmbeddedServer.stop` do.
-/

namespace EmbedSpiceDB.Server

/-- What `Start` gets from outside. -/
structure StartEnv where
  /-- The error of `serverConfig.Complete`, if any. -/
  complete : Option String
  dialEnv : DialEnv
  /-- The error of `NewFileWatcher`, if any. -/
  newFileWatcher : Option String
  /-- The error of `watcher.Start`, if any. -/
  watcherStart : Option String
  /-- The error of `healthhttp.Start`, if any. -/
  healthStart : Option String

/-- The server with its configuration, its watcher and its health server. -/
structure Coordinator where
  server : EmbeddedServer
  config : Config
  /-- `es.watcher`, as the number of the watcher. -/
  watcher : Option Nat
  /-- `es.healthSrv`, as the number of the health server. -/
  healthSrv : Option Nat
  /-- How many times `Stop` was called on each watcher `NewFileWatcher` made, in order. -/
  watcherStops : List Nat
  /-- How many times `Shutdown` was called on each health server `healthhttp.Start` made. -/
  shutdowns : List Nat
deriving DecidableEq, Repr

namespace Coordinator

/-- The server `New` makes from `config`, after `WithDefaults`. -/
def new (config : Config) : Coordinator := ⟨EmbeddedServer.new, config, none, none, [], []⟩

/-- The watcher step of `Start`: a watcher whose `Start` fails is stopped at once. -/
def startWatcher (env : StartEnv) (c : Coordinator) : Coordinator :=
  if c.config.schemaFiles.length > 0 then
    match env.newFileWatcher with
    | some _ => c
    | none =>
      match env.watcherStart with
      | some _ => { c with watcherStops := c.watcherStops ++ [1] }
      | none => { c with watcherStops := c.watcherStops ++ [0], watcher := some c.watcherStops.length }
  else c

/-- `startHealthCheckServer`. -/
def startHealthCheckServer (env : StartEnv) (c : Coordinator) : Coordinator :=
  if !c.config.healthCheckEnabled then c
  else
    match env.healthStart with
    | some _ => c
    | none => { c with shutdowns := c.shutdowns ++ [0], healthSrv := some c.shutdowns.length }

/-- `Start`: the state after it and its error, if any. -/
def start (env : StartEnv) (c : Coordinator) : Coordinator × Option String :=
  match c.server.start env.complete env.dialEnv with
  | (server, some err) => ({ c with server }, some err)
  | (server, none) => (startHealthCheckServer env (startWatcher env { c with server }), none)

/-- `stopHealthCheckServer`, with `shutdown` the error of `Shutdown`, if any. -/
def stopHealthCheckServer (shutdown : Option String) (c : Coordinator) : Coordinator :=
  match c.healthSrv with
  | none => c
  | some srv =>
    match shutdown with
    | some _ => { c with shutdowns := c.shutdowns.modify (· + 1) srv }
    | none => { c with shutdowns := c.shutdowns.modify (· + 1) srv, healthSrv := none }

/-- The watcher step of `Stop`. -/
def stopWatcher (c : Coordinator) : Coordinator :=
  match c.watcher with
  | some current => { c with watcherStops := c.watcherStops.modify (· + 1) current }
  | none => c

/-- `Stop`, with `shutdown` the error the health server's `Shutdown` would return. -/
def stop (shutdown : Option String) (c : Coordinator) : Coordinator :=
  if !c.server.started then c
  else
    let c := stopWatcher (stopHealthCheckServer shutdown c)
    { c with server := c.server.stop }

/-- `Start` or `Stop`; the other calls write none of these fields. -/
inductive Call where
  | start (env : StartEnv)
  | stop (shutdown : Option String)

/-- The state after a call. -/
def call (c : Coordinator) : Call → Coordinator
  | .start env => (c.start env).1
  | .stop shutdown => c.stop shutdown

/-- The state after a sequence of calls. -/
def run (c : Coordinator) (calls : List Call) : Coordinator := calls.foldl call c

/-! ## The lifecycle underneath -/

@[simp] theorem startWatcher_server (env : StartEnv) (c : Coordinator) :
    (startWatcher env c).server = c.server := by
  unfold startWatcher
  split
  · split
    · rfl
    · split <;> rfl
  · rfl

@[simp] theorem startHealthCheckServer_server (env : StartEnv) (c : Coordinator) :
    (startHealthCheckServer env c).server = c.server := by
  unfold startHealthCheckServer
  split
  · rfl
  · split <;> rfl

@[simp] theorem stopHealthCheckServer_server (shutdown : Option String) (c : Coordinator) :
    (stopHealthCheckServer shutdown c).server = c.server := by
  unfold stopHealthCheckServer
  split
  · rfl
  · split <;> rfl

@[simp] theorem stopWatcher_server (c : Coordinator) : (stopWatcher c).server = c.server := by
  unfold stopWatcher
  split <;> rfl

@[simp] theorem stopHealthCheckServer_watcher (shutdown : Option String) (c : Coordinator) :
    (stopHealthCheckServer shutdown c).watcher = c.watcher := by
  unfold stopHealthCheckServer
  split
  · rfl
  · split <;> rfl

@[simp] theorem stopHealthCheckServer_watcherStops (shutdown : Option String) (c : Coordinator) :
    (stopHealthCheckServer shutdown c).watcherStops = c.watcherStops := by
  unfold stopHealthCheckServer
  split
  · rfl
  · split <;> rfl

@[simp] theorem stopWatcher_healthSrv (c : Coordinator) : (stopWatcher c).healthSrv = c.healthSrv := by
  unfold stopWatcher
  split <;> rfl

@[simp] theorem stopWatcher_shutdowns (c : Coordinator) : (stopWatcher c).shutdowns = c.shutdowns := by
  unfold stopWatcher
  split <;> rfl

/-- `Start` moves the lifecycle fields as `EmbeddedServer.start` does, and fails exactly when it
does: none of the optional steps makes `Start` fail. -/
theorem start_server (env : StartEnv) (c : Coordinator) :
    (c.start env).1.server = (c.server.start env.complete env.dialEnv).1 ∧
      (c.start env).2 = (c.server.start env.complete env.dialEnv).2 := by
  unfold start
  split <;> simp_all

@[simp] theorem stop_server (shutdown : Option String) (c : Coordinator) :
    (c.stop shutdown).server = c.server.stop := by
  unfold stop
  split
  · rename_i stopped
    simp only [Bool.not_eq_true', Bool.not_eq_false'] at stopped
    simp [EmbeddedServer.stop, stopped]
  · simp

/-- The lifecycle call under a call. -/
def Call.lifecycle : Call → Server.Call
  | .start env => .start env.complete env.dialEnv
  | .stop _ => .stop

/-- The coordinator refines the lifecycle model: its lifecycle fields after any sequence of calls
are those of `EmbeddedServer` after the same calls. -/
theorem run_server (c : Coordinator) (calls : List Call) :
    (c.run calls).server = Server.run c.server (calls.map Call.lifecycle) := by
  induction calls generalizing c with
  | nil => rfl
  | cons first rest ih =>
    simp only [run, List.foldl_cons, List.map_cons, Server.run] at ih ⊢
    rw [ih]
    cases first with
    | start env => rw [call, (start_server env c).1]; rfl
    | stop shutdown => rw [call, stop_server]; rfl

/-! ## What stays open -/

theorem startWatcher_cases (env : StartEnv) (c : Coordinator) :
    startWatcher env c = c ∨ startWatcher env c = { c with watcherStops := c.watcherStops ++ [1] } ∨
      startWatcher env c =
        { c with watcherStops := c.watcherStops ++ [0], watcher := some c.watcherStops.length } := by
  unfold startWatcher
  split
  · split
    · exact .inl rfl
    · split
      · exact .inr (.inl rfl)
      · exact .inr (.inr rfl)
  · exact .inl rfl

theorem startHealthCheckServer_cases (env : StartEnv) (c : Coordinator) :
    startHealthCheckServer env c = c ∨ startHealthCheckServer env c =
      { c with shutdowns := c.shutdowns ++ [0], healthSrv := some c.shutdowns.length } := by
  unfold startHealthCheckServer
  split
  · exact .inl rfl
  · split
    · exact .inl rfl
    · exact .inr rfl

/-- A slot of the server, `es.watcher` or `es.healthSrv`, with the release count of every
resource it has been given: only the current one may be open, and only while the server is
started. -/
structure SlotReleased (started : Bool) (current : Option Nat) (counts : List Nat) : Prop where
  made : ∀ index, current = some index → index < counts.length
  onlyCurrent : ∀ index, counts[index]? = some 0 → started = true ∧ current = some index

namespace SlotReleased

variable {started : Bool} {current : Option Nat} {counts : List Nat}

/-- A stopped server's slot holds nothing open. -/
theorem closed (released : SlotReleased false current counts) (index : Nat) :
    counts[index]? ≠ some 0 :=
  fun open_ => absurd (released.onlyCurrent index open_).1 Bool.false_ne_true

theorem of_closed (made : ∀ index, current = some index → index < counts.length)
    (closed : ∀ index : Nat, counts[index]? ≠ some 0) : SlotReleased started current counts :=
  ⟨made, fun index open_ => absurd open_ (closed index)⟩

/-- A resource released as soon as it was made leaves the slot as it was. -/
theorem append_released {count : Nat} (released : SlotReleased started current counts)
    (positive : 0 < count) : SlotReleased started current (counts ++ [count]) := by
  refine ⟨fun index now => by simpa using Nat.lt_succ_of_lt (released.made index now),
    fun index open_ => ?_⟩
  rcases Nat.lt_or_ge index counts.length with before | after
  · rw [List.getElem?_append_left before] at open_
    exact released.onlyCurrent index open_
  · rw [List.getElem?_append_right after] at open_
    cases past : index - counts.length with
    | zero => simp only [past, List.getElem?_cons_zero, Option.some.injEq] at open_; omega
    | succ _ => simp [past] at open_

/-- A started server's new resource, in a slot that held nothing open, is the only open one. -/
theorem append_open (closed : ∀ index : Nat, counts[index]? ≠ some 0) :
    SlotReleased true (some counts.length) (counts ++ [0]) := by
  refine ⟨fun index now => by simp [← Option.some.inj now], fun index open_ => ⟨rfl, ?_⟩⟩
  rcases Nat.lt_or_ge index counts.length with before | after
  · rw [List.getElem?_append_left before] at open_
    exact absurd open_ (closed index)
  · have bound := (List.getElem?_eq_some_iff.mp open_).1
    simp only [List.length_append, List.length_singleton] at bound
    rw [show index = counts.length by omega]

/-- Releasing the current resource leaves nothing open. -/
theorem release {index : Nat} (released : SlotReleased started (some index) counts) (other : Nat) :
    (counts.modify (· + 1) index)[other]? ≠ some 0 := by
  by_cases same : index = other
  · subst same
    simp [List.getElem?_modify_eq]
  · rw [List.getElem?_modify_ne _ _ same]
    exact fun open_ => same (Option.some.inj (released.onlyCurrent other open_).2)

end SlotReleased

/-- Only `es.watcher` may be a watcher no `Stop` reached, and only `es.healthSrv` a health server
no `Shutdown` reached, each only while the server is started. -/
def Released (c : Coordinator) : Prop :=
  SlotReleased c.server.started c.watcher c.watcherStops ∧
    SlotReleased c.server.started c.healthSrv c.shutdowns

theorem released_new (config : Config) : Released (new config) :=
  ⟨⟨by simp [new], by simp [new]⟩, ⟨by simp [new], by simp [new]⟩⟩

theorem Released.start {c : Coordinator} (released : Released c) (env : StartEnv) :
    Released (c.start env).1 := by
  obtain ⟨watcherReleased, healthReleased⟩ := released
  obtain ⟨failed, succeeded⟩ := start_started env.complete env.dialEnv c.server
  unfold Coordinator.start
  split
  · -- A failed `Start` changes none of the slots, nor `started`.
    rename_i server err result
    rw [result] at failed
    have same : server.started = c.server.started := failed rfl
    exact ⟨same ▸ watcherReleased, same ▸ healthReleased⟩
  · -- A successful one finds both slots closed, and fills each at most once.
    rename_i server result
    rw [result] at succeeded
    obtain ⟨stopped, started⟩ := succeeded rfl
    dsimp only at started
    rw [stopped] at watcherReleased healthReleased
    have watcherStep : SlotReleased true (startWatcher env { c with server }).watcher
        (startWatcher env { c with server }).watcherStops := by
      rcases startWatcher_cases env { c with server } with stepped | stepped | stepped <;> rw [stepped]
      · exact .of_closed watcherReleased.made watcherReleased.closed
      · exact (SlotReleased.of_closed watcherReleased.made watcherReleased.closed).append_released
          Nat.one_pos
      · exact .append_open watcherReleased.closed
    have untouched : (startWatcher env { c with server }).healthSrv = c.healthSrv ∧
        (startWatcher env { c with server }).shutdowns = c.shutdowns := by
      rcases startWatcher_cases env { c with server } with stepped | stepped | stepped <;>
        rw [stepped] <;> exact ⟨rfl, rfl⟩
    rcases startHealthCheckServer_cases env (startWatcher env { c with server }) with stepped | stepped <;>
      rw [stepped]
    · refine ⟨by simpa [started] using watcherStep, ?_⟩
      rw [untouched.1, untouched.2]
      exact .of_closed healthReleased.made healthReleased.closed
    · refine ⟨by simpa [started] using watcherStep, ?_⟩
      simp only [startWatcher_server, started, untouched.1, untouched.2]
      exact .append_open healthReleased.closed

/-- `Stop` releases the current watcher and keeps the others as they were. -/
theorem stopWatcher_released {started : Bool} {c : Coordinator}
    (released : SlotReleased started c.watcher c.watcherStops) :
    SlotReleased false (stopWatcher c).watcher (stopWatcher c).watcherStops := by
  unfold stopWatcher
  split
  · rename_i index current
    rw [current] at released
    exact .of_closed (fun _ now => by simpa using released.made _ (current.symm.trans now))
      released.release
  · rename_i current
    exact .of_closed (by simp [current]) fun index open_ => by
      simpa [current] using (released.onlyCurrent index open_).2

/-- `Stop` shuts the current health server down, whether or not `Shutdown` fails. -/
theorem stopHealthCheckServer_released {started : Bool} {c : Coordinator} (shutdown : Option String)
    (released : SlotReleased started c.healthSrv c.shutdowns) :
    SlotReleased false (stopHealthCheckServer shutdown c).healthSrv
      (stopHealthCheckServer shutdown c).shutdowns := by
  unfold stopHealthCheckServer
  split
  · rename_i current
    exact .of_closed (by simp [current]) fun index open_ => by
      simpa [current] using (released.onlyCurrent index open_).2
  · rename_i index current
    rw [current] at released
    split
    · exact .of_closed (fun _ now => by simpa using released.made _ (current.symm.trans now))
        released.release
    · exact .of_closed (by simp) released.release

theorem Released.stop {c : Coordinator} (released : Released c) (shutdown : Option String) :
    Released (c.stop shutdown) := by
  unfold Coordinator.stop
  split
  · exact released
  · obtain ⟨watcherReleased, healthReleased⟩ := released
    have watchers := stopWatcher_released (c := stopHealthCheckServer shutdown c)
      (by simpa using watcherReleased)
    have health := stopHealthCheckServer_released shutdown healthReleased
    exact ⟨by simpa using watchers, by simpa using health⟩

theorem Released.run {c : Coordinator} (released : Released c) (calls : List Call) :
    Released (c.run calls) := by
  induction calls generalizing c with
  | nil => exact released
  | cons first rest ih =>
    cases first with
    | start env => exact ih (released.start env)
    | stop shutdown => exact ih (released.stop shutdown)

end Coordinator

open Coordinator

/-- Over every sequence of `Start` and `Stop` calls from `New`, whatever each optional step and
each `Shutdown` returns, the only watcher no `Stop` has reached is `es.watcher`, and the only
health server whose listener is open is `es.healthSrv`, each only while the server is started: a
stopped server holds neither, and a failed `Start` opens neither. The lifecycle fields move as
those of `EmbeddedServer` under the same calls. -/
theorem resources_released (config : Config) (calls : List Coordinator.Call) :
    let c := (Coordinator.new config).run calls
    (∀ index, c.watcherStops[index]? = some 0 → c.server.started = true ∧ c.watcher = some index) ∧
      (∀ index, c.shutdowns[index]? = some 0 → c.server.started = true ∧ c.healthSrv = some index) ∧
      c.server = Server.run EmbeddedServer.new (calls.map Coordinator.Call.lifecycle) := by
  obtain ⟨watchers, health⟩ := (released_new config).run calls
  exact ⟨watchers.onlyCurrent, health.onlyCurrent, run_server _ calls⟩

/-! ## A watcher stopped twice -/

namespace Coordinator

/-- A successful `Start` runs both optional steps. -/
theorem start_of_ok {env : StartEnv} {c : Coordinator} (succeeded : (c.start env).2 = none) :
    (c.start env).1 = startHealthCheckServer env
      (startWatcher env { c with server := (c.server.start env.complete env.dialEnv).1 }) := by
  unfold start at succeeded ⊢
  split at succeeded
  · cases succeeded
  · rename_i server result
    rw [result]

theorem startHealthCheckServer_watcher (env : StartEnv) (c : Coordinator) :
    (startHealthCheckServer env c).watcher = c.watcher ∧
      (startHealthCheckServer env c).watcherStops = c.watcherStops := by
  rcases startHealthCheckServer_cases env c with stepped | stepped <;> rw [stepped] <;> exact ⟨rfl, rfl⟩

/-- A watcher step that makes no running watcher leaves `es.watcher`, and at most adds a watcher
it stopped. -/
theorem startWatcher_of_failed {env : StartEnv} (failed : env.newFileWatcher.isSome ∨ env.watcherStart.isSome)
    (c : Coordinator) : (startWatcher env c).watcher = c.watcher ∧
      ∃ extra, (startWatcher env c).watcherStops = c.watcherStops ++ extra := by
  unfold startWatcher
  split
  · split
    · exact ⟨rfl, [], by simp⟩
    · rename_i made
      split
      · exact ⟨rfl, [1], rfl⟩
      · rename_i started
        simp [made, started] at failed
  · exact ⟨rfl, [], by simp⟩

/-- `Stop` of a started server stops `es.watcher`, and keeps it. -/
theorem stop_watcher (shutdown : Option String) {c : Coordinator} {current : Nat}
    (started : c.server.started = true) (watching : c.watcher = some current) :
    (c.stop shutdown).watcher = some current ∧
      (c.stop shutdown).watcherStops = c.watcherStops.modify (· + 1) current := by
  simp [Coordinator.stop, started, stopWatcher, watching]

end Coordinator

/-- `Stop` never clears `es.watcher`: when a restart makes no running watcher, because
`NewFileWatcher` or the new watcher's `Start` fails, the next `Stop` calls `Stop` once more on the
watcher the `Stop` before it stopped. `made` holds in every state calls from `New` reach
(`Released.run`). -/
theorem stale_watcher_stopped_again {c : Coordinator} {env : StartEnv} {current : Nat}
    {shutdown shutdown' : Option String} (started : c.server.started = true)
    (watching : c.watcher = some current) (made : current < c.watcherStops.length)
    (restarted : ((c.stop shutdown).start env).2 = none)
    (failed : env.newFileWatcher.isSome ∨ env.watcherStart.isSome) :
    (((c.stop shutdown).start env).1.stop shutdown').watcherStops[current]? =
      c.watcherStops[current]?.map (· + 2) := by
  obtain ⟨stillWatching, stopped⟩ := stop_watcher shutdown started watching
  -- The restart keeps `es.watcher`, and only adds watchers after it.
  have restartedStarted : ((c.stop shutdown).start env).1.server.started = true := by
    rw [(start_server env _).2] at restarted
    rw [(start_server env _).1]
    exact ((start_started _ _ _).2 restarted).2
  rw [start_of_ok restarted] at restartedStarted ⊢
  generalize (c.stop shutdown).server.start env.complete env.dialEnv = restart at restartedStarted ⊢
  obtain ⟨sameWatcher, extra, appended⟩ :=
    startWatcher_of_failed failed { c.stop shutdown with server := restart.1 }
  obtain ⟨healthWatcher, healthStops⟩ :=
    startHealthCheckServer_watcher env (startWatcher env { c.stop shutdown with server := restart.1 })
  rw [(stop_watcher shutdown' restartedStarted (by rw [healthWatcher, sameWatcher, stillWatching])).2,
    healthStops, appended, List.getElem?_modify_eq,
    List.getElem?_append_left (by simpa [stopped] using made), stopped, List.getElem?_modify_eq]
  cases c.watcherStops[current]? <;> rfl

/-- After `Start`, `Stop`, a restart whose `NewFileWatcher` fails and `Stop`, the first watcher
has been stopped twice. -/
theorem restart_without_watcher_stops_twice :
    let connects : DialEnv := ⟨fun _ => none, fun _ => none⟩
    let c := (Coordinator.new { Config.defaultConfig with schemaFiles := ["schema.zed"] }).run
      [.start ⟨none, connects, none, none, none⟩]
    let env : StartEnv := ⟨none, connects, some "too many open files", none, none⟩
    c.server.started = true ∧ c.watcher = some 0 ∧ 0 < c.watcherStops.length ∧
      ((c.stop none).start env).2 = none ∧ (env.newFileWatcher.isSome ∨ env.watcherStart.isSome) ∧
      (((c.stop none).start env).1.stop none).watcherStops[0]? = c.watcherStops[0]?.map (· + 2) :=
  ⟨by decide, by decide, by decide, by decide, .inl rfl,
    stale_watcher_stopped_again (by decide) (by decide) (by decide) (by decide) (.inl rfl)⟩

end EmbedSpiceDB.Server
