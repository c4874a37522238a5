import EmbedSpiceDB.Watch.Watcher
import EmbedSpiceDB.Server.Lifecycle

/-! # Concurrent calls on a running `EmbeddedServer`

The threads of a started server: callers of `ReloadSchema`, `OnSchemaReloaded`, `Client`,
`HealthCheck` and `Stop`, the watcher's `watchLoop`, and the timer callbacks, whose `reloadFunc` is
`es.ReloadSchema(ctx)`. `es.mu` is a readers-writer lock and `fw.mu` a mutex.

A section under `es.mu` for reading blocks nowhere inside and takes no other lock, so it is one
step here: it waits while a writer holds `es.mu`, but no step of another thread falls inside it,
and a writer never waits for a reader. `OnSchemaReloaded` and `handleFileChange` are one step each
for the same reason. Two holders span several steps: `Stop` holds `es.mu` for writing from its
`Lock` to its return, `FileWatcher.Stop` included, and a timer callback that calls `reloadFunc`
holds `fw.mu` across the whole `ReloadSchema` call.
-/

namespace EmbedSpiceDB.Server

open Watch FileWatcher EmbeddedServer

/-- Where a `ReloadSchema` call is; the arguments are its live locals. -/
inductive ReloadPc where
  /-- Before its first section under `es.mu` for reading. -/
  | check
  /-- `reloader.Reload(ctx)` is in flight, with no lock held. -/
  | reloading
  /-- Before its second section under `es.mu` for reading, with the error `Reload` returned. -/
  | copying (err : Option String)
  /-- Invoking `callbacks`, its copy of `es.reloadCallbacks`, from position `next` on. -/
  | invoking (err : Option String) (callbacks : List Nat) (next : Nat)
  /-- Returned `err` after invoking `callbacks`. -/
  | returned (err : Option String) (callbacks : List Nat)
  /-- Returned `err` from its first section, without reloading. -/
  | rejected (err : String)
deriving DecidableEq, Repr

/-- A `ReloadSchema` call. -/
structure ReloadCall where
  /-- The registrations that had completed when the call began. -/
  began : Nat
  pc : ReloadPc
deriving DecidableEq, Repr

/-- One invocation of a registered callback: by which call, of which registration, with which
error. -/
structure Invocation where
  call : Nat
  callback : Nat
  err : Option String
deriving DecidableEq, Repr

/-- The observer list and every `ReloadSchema` call. -/
structure Observers where
  /-- `es.reloadCallbacks`, each callback by the number of its registration. -/
  reloadCallbacks : List Nat
  /-- `OnSchemaReloaded` calls completed. -/
  registrations : Nat
  /-- Every `ReloadSchema` call so far, by number. -/
  calls : List ReloadCall
  /-- Every callback invocation so far, in order. -/
  invoked : List Invocation
deriving DecidableEq, Repr

namespace Observers

/-- The section of `OnSchemaReloaded`: append the next registration. -/
def register (obs : Observers) : Observers :=
  { obs with reloadCallbacks := obs.reloadCallbacks ++ [obs.registrations],
             registrations := obs.registrations + 1 }

/-- A `ReloadSchema` call begins. -/
def begin (obs : Observers) : Observers :=
  { obs with calls := obs.calls ++ [⟨obs.registrations, .check⟩] }

/-- Call `id` moves to `pc`, having made `invocation`. -/
def advance (obs : Observers) (id : Nat) (call : ReloadCall) (pc : ReloadPc)
    (invocation : Option Invocation) : Observers :=
  { obs with calls := obs.calls.set id { call with pc }, invoked := obs.invoked ++ invocation.toList }

end Observers

/-- Where `Stop` is. -/
inductive StopPc where
  /-- No `Stop` holds `es.mu`. -/
  | idle
  /-- Holding `es.mu` for writing, about to take `fw.mu` in `FileWatcher.Stop`. -/
  | stoppingWatcher
  /-- Holding `es.mu` for writing, past `FileWatcher.Stop`. -/
  | closing
deriving DecidableEq, Repr

/-- A started server with its watcher, and every thread's point. -/
structure System where
  server : EmbeddedServer
  watcher : FileWatcher
  observers : Observers
  stop : StopPc
  /-- The call of the timer callback that holds `fw.mu` while its `reloadFunc` runs. -/
  fwHolder : Option Nat
deriving DecidableEq, Repr

namespace System

/-- `es.mu` is held for writing. -/
def writing (s : System) : Bool := s.stop != .idle

/-- The call of the timer callback holding `fw.mu`. -/
def holderCall (s : System) : Option ReloadCall := s.fwHolder.bind (s.observers.calls[·]?)

end System

/-- The next step of a `ReloadSchema` call at `pc`: its next point and the invocation it makes;
`none` while it waits for `es.mu` or once it has returned. `result` is what `Reload` returns. -/
def ReloadPc.next (s : System) (id : Nat) (result : Option String) :
    ReloadPc → Option (ReloadPc × Option Invocation)
  | .check =>
    if s.writing then none
    else if !s.server.started then some (.rejected "server is not started", none)
    else if s.server.reloader.isNone then some (.rejected "no schema reloader available", none)
    else some (.reloading, none)
  | .reloading => some (.copying result, none)
  | .copying err => if s.writing then none else some (.invoking err s.observers.reloadCallbacks 0, none)
  | .invoking err callbacks next =>
    match callbacks[next]? with
    | some callback => some (.invoking err callbacks (next + 1), some ⟨id, callback, err⟩)
    | none => some (.returned err callbacks, none)
  | .returned _ _ | .rejected _ => none

/-- The call has returned. -/
def ReloadPc.done : ReloadPc → Bool
  | .returned _ _ | .rejected _ => true
  | _ => false

/-- The call is past its first section, which found the server started with a bound reloader. -/
def ReloadPc.passed : ReloadPc → Bool
  | .check | .rejected _ => false
  | _ => true

/-- A step of one thread. -/
inductive Action where
  /-- An `OnSchemaReloaded` call. -/
  | register
  /-- A `ReloadSchema` call begins. -/
  | call
  /-- The next step of call `id`; `result` is what `Reload` returns, if that is the step. -/
  | reload (id : Nat) (result : Option String)
  /-- The section of a `Client` or `HealthCheck` call. -/
  | read
  /-- `watchLoop` receives an event; a recorded one is handled under `fw.mu`. -/
  | event (event : Event)
  | fire (index : Nat)
  /-- The callback of timer `index` takes `fw.mu` and runs its section, calling `reloadFunc` if
  there is anything to flush. -/
  | callback (index : Nat)
  /-- The callback holding `fw.mu` returns from `reloadFunc` and releases it. -/
  | release
  /-- `Stop` takes `es.mu` for writing; it returns at once when the server is not started. -/
  | stopLock
  /-- The section of `FileWatcher.Stop` under `fw.mu`, and `fw.cancel()`. -/
  | stopWatcher
  /-- The rest of `Stop`: close the connection, cancel `es.ctx`, close the datastore. -/
  | stopClose
deriving DecidableEq, Repr

/-- One step of the system; `none` when the thread cannot take it. -/
def step (s : System) : Action → Option System
  | .register => if s.writing then none else some { s with observers := s.observers.register }
  | .call => some { s with observers := s.observers.begin }
  | .reload id result =>
    match s.observers.calls[id]? with
    | none => none
    | some call =>
      (call.pc.next s id result).map fun (pc, invocation) =>
        { s with observers := s.observers.advance id call pc invocation }
  | .read => if s.writing then none else some s
  | .event event =>
    if s.fwHolder.isSome && (s.watcher.isWatchedFile event.name && qualifies event.op) then none
    else (Watch.step s.watcher (.event event)).map fun (watcher, _) => { s with watcher }
  | .fire index => (Watch.step s.watcher (.fire index)).map fun (watcher, _) => { s with watcher }
  | .callback index =>
    if s.fwHolder.isSome then none
    else (Watch.step s.watcher (.callback index)).map fun (watcher, reloaded) =>
      if reloaded then
        { s with watcher, observers := s.observers.begin, fwHolder := some s.observers.calls.length }
      else { s with watcher }
  | .release =>
    if (s.holderCall.map (·.pc.done)) = some true then some { s with fwHolder := none } else none
  | .stopLock =>
    if s.writing then none
    else if s.server.started then some { s with stop := .stoppingWatcher } else some s
  | .stopWatcher =>
    if s.stop = .stoppingWatcher && s.fwHolder.isNone then
      (Watch.step s.watcher .stop).bind fun (watcher, _) =>
        (Watch.step watcher .cancel).map fun (watcher, _) => { s with watcher, stop := .closing }
    else none
  | .stopClose => if s.stop = .closing then some { s with server := s.server.stop, stop := .idle } else none

/-- A run of steps. -/
inductive Run : System → List Action → System → Prop
  | nil (s : System) : Run s [] s
  | cons {s next last : System} {action : Action} {actions : List Action} :
      step s action = some next → Run next actions last → Run s (action :: actions) last

/-- The state a sequence of steps reaches, if each can be taken. -/
def runFrom (s : System) : List Action → Option System
  | [] => some s
  | action :: actions => (step s action).bind (runFrom · actions)

theorem run_of_runFrom {s last : System} {actions : List Action}
    (reached : runFrom s actions = some last) : Run s actions last := by
  induction actions generalizing s with
  | nil => cases reached; exact .nil _
  | cons action actions ih =>
    obtain ⟨next, stepped, rest⟩ := Option.bind_eq_some.mp reached
    exact .cons stepped (ih rest)

/-- A started server with its watcher, before any call. -/
def initial (server : EmbeddedServer) (watcher : FileWatcher) : System :=
  ⟨server, watcher, ⟨[], 0, [], []⟩, .idle, none⟩

/-- The server after `New` and a `Start` whose first dial connects. -/
def started : EmbeddedServer := (new.start none connectAtOnce).1

/-- The watcher that `Start` makes for `/s.zed`. -/
def watched : FileWatcher := FileWatcher.start "/" ["/s.zed"]

/-! ## What a step does -/

/-- What a step can do: the guard of each transition and the state it makes. -/
theorem step_cases {s next : System} {action : Action} (stepped : step s action = some next) :
    (s.writing = false ∧ next = s) ∨
    (s.writing = false ∧ next = { s with observers := s.observers.register }) ∨
    next = { s with observers := s.observers.begin } ∨
    (∃ id result call pc invocation, s.observers.calls[id]? = some call ∧
      call.pc.next s id result = some (pc, invocation) ∧
      next = { s with observers := s.observers.advance id call pc invocation }) ∨
    (∃ watcherAction watcher reloaded, Watch.step s.watcher watcherAction = some (watcher, reloaded) ∧
      next = { s with watcher }) ∨
    (s.fwHolder = none ∧ ∃ index watcher,
      Watch.step s.watcher (.callback index) = some (watcher, true) ∧
      next = { s with watcher, observers := s.observers.begin,
                      fwHolder := some s.observers.calls.length }) ∨
    ((s.holderCall.map (·.pc.done)) = some true ∧ next = { s with fwHolder := none }) ∨
    (s.writing = false ∧ next = { s with stop := .stoppingWatcher }) ∨
    (s.stop = .stoppingWatcher ∧ s.fwHolder = none ∧
      ∃ stopped cancelled stopReloaded cancelReloaded,
        Watch.step s.watcher .stop = some (stopped, stopReloaded) ∧
        Watch.step stopped .cancel = some (cancelled, cancelReloaded) ∧
        next = { s with watcher := cancelled, stop := .closing }) ∨
    (s.stop = .closing ∧ next = { s with server := s.server.stop, stop := .idle }) := by
  cases action with
  | register =>
    obtain ⟨free, ⟨⟩⟩ := Option.ite_none_left_eq_some.mp stepped
    exact .inr (.inl ⟨Bool.of_not_eq_true free, rfl⟩)
  | call => cases stepped; exact .inr (.inr (.inl rfl))
  | reload id result =>
    simp only [Server.step] at stepped
    split at stepped
    · cases stepped
    · rename_i call current
      obtain ⟨⟨pc, invocation⟩, moved, rfl⟩ := Option.map_eq_some'.mp stepped
      exact .inr (.inr (.inr (.inl ⟨id, result, call, pc, invocation, current, moved, rfl⟩)))
  | read =>
    obtain ⟨free, ⟨⟩⟩ := Option.ite_none_left_eq_some.mp stepped
    exact .inl ⟨Bool.of_not_eq_true free, rfl⟩
  | event event =>
    obtain ⟨-, mapped⟩ := Option.ite_none_left_eq_some.mp stepped
    obtain ⟨⟨watcher, reloaded⟩, moved, rfl⟩ := Option.map_eq_some'.mp mapped
    exact .inr (.inr (.inr (.inr (.inl ⟨_, watcher, reloaded, moved, rfl⟩))))
  | fire index =>
    obtain ⟨⟨watcher, reloaded⟩, moved, rfl⟩ := Option.map_eq_some'.mp stepped
    exact .inr (.inr (.inr (.inr (.inl ⟨_, watcher, reloaded, moved, rfl⟩))))
  | callback index =>
    obtain ⟨free, mapped⟩ := Option.ite_none_left_eq_some.mp stepped
    obtain ⟨⟨watcher, reloaded⟩, moved, rfl⟩ := Option.map_eq_some'.mp mapped
    cases reloaded
    · exact .inr (.inr (.inr (.inr (.inl ⟨_, watcher, false, moved, rfl⟩))))
    · exact .inr (.inr (.inr (.inr (.inr (.inl
        ⟨Option.not_isSome_iff_eq_none.mp free, index, watcher, moved, rfl⟩)))))
  | release =>
    obtain ⟨done, ⟨⟩⟩ := Option.ite_none_right_eq_some.mp stepped
    exact .inr (.inr (.inr (.inr (.inr (.inr (.inl ⟨done, rfl⟩))))))
  | stopLock =>
    obtain ⟨free, locked⟩ := Option.ite_none_left_eq_some.mp stepped
    split at locked <;> cases locked
    · exact .inr (.inr (.inr (.inr (.inr (.inr (.inr (.inl ⟨Bool.of_not_eq_true free, rfl⟩)))))))
    · exact .inl ⟨Bool.of_not_eq_true free, rfl⟩
  | stopWatcher =>
    obtain ⟨guard, stopped⟩ := Option.ite_none_right_eq_some.mp stepped
    obtain ⟨⟨watcher, stopReloaded⟩, first, afterStop⟩ := Option.bind_eq_some.mp stopped
    obtain ⟨⟨cancelled, cancelReloaded⟩, second, rfl⟩ := Option.map_eq_some'.mp afterStop
    simp only [Bool.and_eq_true, decide_eq_true_eq, Option.isNone_iff_eq_none] at guard
    exact .inr (.inr (.inr (.inr (.inr (.inr (.inr (.inr (.inl
      ⟨guard.1, guard.2, watcher, cancelled, stopReloaded, cancelReloaded, first, second, rfl⟩))))))))
  | stopClose =>
    obtain ⟨closing, ⟨⟩⟩ := Option.ite_none_right_eq_some.mp stepped
    exact .inr (.inr (.inr (.inr (.inr (.inr (.inr (.inr (.inr
      ⟨closing, rfl⟩))))))))

/-- A step leaves the observers as they were, registers a callback, begins a call, or moves one
call by its own next step. -/
theorem step_observers {s next : System} {action : Action} (stepped : step s action = some next) :
    next.observers = s.observers ∨ next.observers = s.observers.register ∨
      next.observers = s.observers.begin ∨
      ∃ id call result pc invocation, s.observers.calls[id]? = some call ∧
        call.pc.next s id result = some (pc, invocation) ∧
        next.observers = s.observers.advance id call pc invocation := by
  rcases step_cases stepped with ⟨-, rfl⟩ | ⟨-, rfl⟩ | rfl |
      ⟨id, result, call, pc, invocation, current, moved, rfl⟩ | ⟨_, _, _, -, rfl⟩ |
      ⟨-, _, _, -, rfl⟩ | ⟨-, rfl⟩ | ⟨-, rfl⟩ | ⟨-, -, _, _, _, _, -, -, rfl⟩ | ⟨-, rfl⟩
  all_goals first
    | exact .inl rfl
    | exact .inr (.inl rfl)
    | exact .inr (.inr (.inl rfl))
    | exact .inr (.inr (.inr ⟨id, call, result, pc, invocation, current, moved, rfl⟩))

/-! ## Callbacks of a reload -/

/-- The callbacks call `id` has invoked, with their errors, in order. -/
def invocationsOf (invoked : List Invocation) (id : Nat) : List (Nat × Option String) :=
  (invoked.filter (·.call = id)).map fun invocation => (invocation.callback, invocation.err)

theorem invocationsOf_append (invoked : List Invocation) (invocation : Invocation) (id : Nat) :
    invocationsOf (invoked ++ [invocation]) id =
      invocationsOf invoked id ++ if invocation.call = id then [(invocation.callback, invocation.err)] else [] := by
  by_cases same : invocation.call = id <;> simp [invocationsOf, same]

/-- `callbacks` holds, in order, the first registrations, and at least those completed by `began`. -/
def Registered (began registrations : Nat) (callbacks : List Nat) : Prop :=
  ∃ count, began ≤ count ∧ count ≤ registrations ∧ callbacks = List.range count

/-- The invocations of call `id` at each of its points. -/
def CallInvariant (registrations : Nat) (invoked : List Invocation) (id : Nat) (call : ReloadCall) :
    Prop :=
  call.began ≤ registrations ∧
    match call.pc with
    | .check | .reloading | .copying _ | .rejected _ => invocationsOf invoked id = []
    | .invoking err callbacks next =>
      Registered call.began registrations callbacks ∧
        invocationsOf invoked id = (callbacks.take next).map (·, err)
    | .returned err callbacks =>
      Registered call.began registrations callbacks ∧ invocationsOf invoked id = callbacks.map (·, err)

theorem CallInvariant.congr_invoked {registrations : Nat} {invoked invoked' : List Invocation}
    {id : Nat} {call : ReloadCall} (same : invocationsOf invoked' id = invocationsOf invoked id) :
    CallInvariant registrations invoked' id call ↔ CallInvariant registrations invoked id call := by
  unfold CallInvariant
  rw [same]

theorem CallInvariant.mono {registrations more : Nat} {invoked : List Invocation} {id : Nat}
    {call : ReloadCall} (invariant : CallInvariant registrations invoked id call)
    (grown : registrations ≤ more) : CallInvariant more invoked id call := by
  obtain ⟨began, rest⟩ := invariant
  refine ⟨Nat.le_trans began grown, ?_⟩
  have widen : ∀ {callbacks}, Registered call.began registrations callbacks →
      Registered call.began more callbacks :=
    fun ⟨count, atLeast, atMost, copied⟩ => ⟨count, atLeast, Nat.le_trans atMost grown, copied⟩
  cases pc : call.pc <;> simp only [pc] at rest ⊢
  all_goals first
    | exact rest
    | exact ⟨widen rest.1, rest.2⟩

/-- A call's own step keeps its invariant. -/
theorem CallInvariant.next {s : System} {id : Nat} {call : ReloadCall} {result : Option String}
    {pc : ReloadPc} {invocation : Option Invocation}
    (invariant : CallInvariant s.observers.registrations s.observers.invoked id call)
    (registered : s.observers.reloadCallbacks = List.range s.observers.registrations)
    (moved : call.pc.next s id result = some (pc, invocation)) :
    CallInvariant s.observers.registrations (s.observers.invoked ++ invocation.toList) id
      { call with pc } := by
  obtain ⟨began, rest⟩ := invariant
  refine ⟨began, ?_⟩
  cases current : call.pc with
  | check | reloading =>
    rw [current] at rest
    simp only [current, ReloadPc.next] at moved
    repeat' split at moved
    all_goals cases moved
    all_goals simpa using rest
  | copying err =>
    simp only [current, ReloadPc.next] at moved
    split at moved <;> cases moved
    exact ⟨⟨_, began, Nat.le_refl _, registered⟩, by simpa [current] using rest⟩
  | invoking err callbacks next =>
    rw [current] at rest
    obtain ⟨registeredCopy, invocations⟩ := rest
    simp only [current, ReloadPc.next] at moved
    split at moved <;> cases moved
    · rename_i callback found
      refine ⟨registeredCopy, ?_⟩
      simp [invocationsOf_append, invocations, List.take_succ, found]
    · rename_i missing
      have whole : callbacks.take next = callbacks :=
        List.take_of_length_le (by simpa using missing)
      exact ⟨registeredCopy, by simpa [whole] using invocations⟩
  | returned err callbacks | rejected err => simp [current, ReloadPc.next] at moved

/-- What every run keeps of the observers. -/
structure Observers.Invariant (obs : Observers) : Prop where
  /-- Registrations are appended in order, none lost and none twice. -/
  registered : obs.reloadCallbacks = List.range obs.registrations
  calls : ∀ id call, obs.calls[id]? = some call → CallInvariant obs.registrations obs.invoked id call
  invokedCalls : ∀ invocation ∈ obs.invoked, invocation.call < obs.calls.length

namespace Observers.Invariant

variable {obs : Observers} (invariant : obs.Invariant)

include invariant

theorem register : obs.register.Invariant := by
  refine ⟨by simp [Observers.register, invariant.registered, List.range_succ], fun id call current => ?_,
    invariant.invokedCalls⟩
  exact (invariant.calls id call current).mono (Nat.le_succ _)

theorem begin : obs.begin.Invariant := by
  refine ⟨invariant.registered, fun id call current => ?_, fun invocation member =>
    by simpa [Observers.begin] using Nat.lt_succ_of_lt (invariant.invokedCalls invocation member)⟩
  by_cases earlier : id < obs.calls.length
  · exact invariant.calls id call
      (by simpa [Observers.begin, List.getElem?_append_left earlier] using current)
  · simp only [Observers.begin, List.getElem?_append_right (Nat.le_of_not_lt earlier),
      List.getElem?_cons, List.getElem?_nil] at current
    split at current
    · cases current
      refine ⟨Nat.le_refl _, List.eq_nil_iff_forall_not_mem.mpr fun ⟨callback, err⟩ member => ?_⟩
      obtain ⟨invocation, ⟨made, own⟩, -⟩ := by simpa [invocationsOf, Observers.begin] using member
      have := invariant.invokedCalls invocation made
      omega
    · cases current

end Observers.Invariant

/-- A call's own step keeps the invariant of every call. -/
theorem Observers.Invariant.advance {s : System} {id : Nat} {call : ReloadCall} {result : Option String}
    {pc : ReloadPc} {invocation : Option Invocation} (invariant : s.observers.Invariant)
    (current : s.observers.calls[id]? = some call) (moved : call.pc.next s id result = some (pc, invocation)) :
    (s.observers.advance id call pc invocation).Invariant := by
  have bound : id < s.observers.calls.length := (List.getElem?_eq_some_iff.mp current).1
  have ownInvocation : ∀ made ∈ invocation, made.call = id := by
    cases pc' : call.pc <;> simp only [pc', ReloadPc.next] at moved <;> (repeat' split at moved) <;>
      cases moved <;> simp
  refine ⟨invariant.registered, fun other otherCall found => ?_, fun made member => ?_⟩
  · by_cases same : other = id
    · subst same
      simp only [Observers.advance, List.getElem?_set_self bound, Option.some.injEq] at found
      subst found
      exact (invariant.calls _ _ current).next invariant.registered moved
    · simp only [Observers.advance, List.getElem?_set_ne (Ne.symm same)] at found
      have kept := invariant.calls other otherCall found
      have unchanged : invocationsOf (s.observers.invoked ++ invocation.toList) other =
          invocationsOf s.observers.invoked other := by
        cases invocation with
        | none => simp
        | some made =>
          simp [invocationsOf_append, ownInvocation made rfl, Ne.symm same]
      exact (CallInvariant.congr_invoked unchanged).mpr kept
  · simp only [Observers.advance, List.mem_append, Option.mem_toList, List.length_set] at member ⊢
    rcases member with earlier | latest
    · exact invariant.invokedCalls made earlier
    · exact (ownInvocation made latest) ▸ bound

theorem Observers.Invariant.step {s next : System} {action : Action} (invariant : s.observers.Invariant)
    (stepped : step s action = some next) : next.observers.Invariant := by
  rcases step_observers stepped with same | registered | begun |
      ⟨id, call, result, pc, invocation, current, moved, advanced⟩
  · exact same ▸ invariant
  · exact registered ▸ invariant.register
  · exact begun ▸ invariant.begin
  · exact advanced ▸ invariant.advance current moved

theorem Observers.Invariant.run {s last : System} {actions : List Action}
    (invariant : s.observers.Invariant) (run : Run s actions last) : last.observers.Invariant := by
  induction run with
  | nil => exact invariant
  | cons stepped _ ih => exact ih (invariant.step stepped)

/-- The second section of `ReloadSchema` copies `es.reloadCallbacks` as it stands. -/
theorem step_copies {s next : System} {id : Nat} {result err : Option String} {call : ReloadCall}
    (stepped : step s (.reload id result) = some next) (current : s.observers.calls[id]? = some call)
    (copying : call.pc = .copying err) :
    next.observers.calls[id]? = some { call with pc := .invoking err s.observers.reloadCallbacks 0 } := by
  have bound : id < s.observers.calls.length := (List.getElem?_eq_some_iff.mp current).1
  simp only [Server.step, current, copying, ReloadPc.next] at stepped
  split at stepped <;> cases stepped
  simp [Observers.advance, List.getElem?_set_self bound]

/-! ## Progress of a call -/

/-- The steps of call `id` alone. -/
def OwnSteps (id : Nat) (actions : List Action) : Prop := ∀ action ∈ actions, ∃ result, action = .reload id result

/-- Call `id` has returned. -/
def Returned (s : System) (id : Nat) : Prop := ∃ call, s.observers.calls[id]? = some call ∧ call.pc.done = true

theorem step_own {s : System} {id : Nat} {call : ReloadCall} {result : Option String} {pc : ReloadPc}
    {invocation : Option Invocation} (current : s.observers.calls[id]? = some call)
    (moved : call.pc.next s id result = some (pc, invocation)) :
    ∃ next, step s (.reload id result) = some next ∧ next.stop = s.stop ∧
      next.observers.calls[id]? = some { call with pc } := by
  have bound : id < s.observers.calls.length := (List.getElem?_eq_some_iff.mp current).1
  refine ⟨{ s with observers := s.observers.advance id call pc invocation },
    by simp [Server.step, current, moved], rfl, ?_⟩
  simp [Observers.advance, List.getElem?_set_self bound]

/-- Prefix a run that returns call `id` by one step of it. -/
theorem returns_of_step {s next : System} {id : Nat} {result : Option String}
    (stepped : step s (.reload id result) = some next)
    (rest : ∃ actions last, Run next actions last ∧ OwnSteps id actions ∧ Returned last id) :
    ∃ actions last, Run s actions last ∧ OwnSteps id actions ∧ Returned last id := by
  obtain ⟨actions, last, run, own, returned⟩ := rest
  refine ⟨.reload id result :: actions, last, .cons stepped run, fun action member => ?_, returned⟩
  rcases List.mem_cons.mp member with rfl | later
  · exact ⟨result, rfl⟩
  · exact own action later

theorem returns_of_done {s : System} {id : Nat} {call : ReloadCall}
    (current : s.observers.calls[id]? = some call) (done : call.pc.done = true) :
    ∃ actions last, Run s actions last ∧ OwnSteps id actions ∧ Returned last id :=
  ⟨[], s, .nil s, by simp [OwnSteps], call, current, done⟩

/-- A call whose own next step returns it has returned after that step. -/
theorem returns_of_last {s : System} {id : Nat} {call : ReloadCall} {pc : ReloadPc}
    (current : s.observers.calls[id]? = some call) (moved : call.pc.next s id none = some (pc, none))
    (done : pc.done = true) :
    ∃ actions last, Run s actions last ∧ OwnSteps id actions ∧ Returned last id := by
  obtain ⟨_, stepped, -, advanced⟩ := step_own current moved
  exact returns_of_step stepped (returns_of_done advanced done)

/-- A call invoking its copy returns by its own steps, one per callback left. -/
theorem returns_of_invoking (left : Nat) {s : System} {id : Nat} {call : ReloadCall}
    {err : Option String} {callbacks : List Nat} {next : Nat}
    (current : s.observers.calls[id]? = some call) (invoking : call.pc = .invoking err callbacks next)
    (bound : callbacks.length - next ≤ left) :
    ∃ actions last, Run s actions last ∧ OwnSteps id actions ∧ Returned last id := by
  induction left generalizing s call next with
  | zero =>
    have missing : callbacks[next]? = none := List.getElem?_eq_none (by omega)
    exact @returns_of_last _ _ _ (.returned err callbacks) current
      (by simp [invoking, ReloadPc.next, missing]) rfl
  | succ left ih =>
    cases found : callbacks[next]? with
    | none =>
      exact @returns_of_last _ _ _ (.returned err callbacks) current
        (by simp [invoking, ReloadPc.next, found]) rfl
    | some callback =>
      obtain ⟨_, stepped, -, advanced⟩ := @step_own _ _ _ none (.invoking err callbacks (next + 1))
        (some ⟨id, callback, err⟩) current (by simp [invoking, ReloadPc.next, found])
      exact returns_of_step stepped (ih advanced rfl (by omega))

/-- While no `Stop` holds `es.mu`, a call runs to its return by its own steps alone. -/
theorem reload_returns {s : System} {id : Nat} {call : ReloadCall} (free : s.stop = .idle)
    (current : s.observers.calls[id]? = some call) :
    ∃ actions last, Run s actions last ∧ OwnSteps id actions ∧ Returned last id := by
  have reading : s.writing = false := by simp [System.writing, free]
  have copied : ∀ {s : System} {call : ReloadCall} {err : Option String}, s.stop = .idle →
      s.observers.calls[id]? = some call → call.pc = .copying err →
      ∃ actions last, Run s actions last ∧ OwnSteps id actions ∧ Returned last id := by
    intro s call err free current copying
    obtain ⟨_, stepped, -, advanced⟩ :=
      @step_own _ _ _ none (.invoking err s.observers.reloadCallbacks 0) none current
        (by simp [copying, ReloadPc.next, System.writing, free])
    exact returns_of_step stepped (returns_of_invoking _ advanced rfl (Nat.le_refl _))
  cases pc : call.pc with
  | returned | rejected => exact returns_of_done current (by simp [pc, ReloadPc.done])
  | invoking err callbacks next => exact returns_of_invoking _ current pc (Nat.le_refl _)
  | copying err => exact copied free current pc
  | reloading =>
    obtain ⟨_, stepped, stop, advanced⟩ := @step_own _ _ _ none (.copying none) none current
      (by simp [pc, ReloadPc.next])
    exact returns_of_step stepped (copied (stop.trans free) advanced rfl)
  | check =>
    by_cases started : s.server.started = false
    · exact @returns_of_last _ _ _ (.rejected "server is not started") current
        (by simp [pc, ReloadPc.next, reading, started]) rfl
    by_cases unbound : s.server.reloader.isNone
    · exact @returns_of_last _ _ _ (.rejected "no schema reloader available") current
        (by simp [pc, ReloadPc.next, reading, started, unbound]) rfl
    obtain ⟨_, stepped, stop, advanced⟩ := @step_own _ _ _ none .reloading none current
      (by simp [pc, ReloadPc.next, reading, started, unbound])
    obtain ⟨_, reloaded, stop', copying⟩ := @step_own _ _ _ none (.copying none) none advanced
      (by simp [ReloadPc.next])
    exact returns_of_step stepped (returns_of_step reloaded
      (copied (stop'.trans (stop.trans free)) copying rfl))

/-! ## Calls past their check -/

/-- The first section of a call that finds the server started with a bound reloader moves it into
`Reload`. -/
theorem step_check {s next : System} {id : Nat} {result : Option String} {call : ReloadCall}
    (stepped : step s (.reload id result) = some next) (current : s.observers.calls[id]? = some call)
    (check : call.pc = .check) (started : s.server.started = true)
    (bound : s.server.reloader.isSome = true) :
    next.observers.calls[id]? = some { call with pc := .reloading } := by
  have inRange : id < s.observers.calls.length := (List.getElem?_eq_some_iff.mp current).1
  obtain ⟨reloader, bound⟩ := Option.isSome_iff_exists.mp bound
  simp only [Server.step, current, check, ReloadPc.next, started, bound] at stepped
  split at stepped <;> cases stepped
  simp [Observers.advance, List.getElem?_set_self inRange]

/-- No step of a call past its first section rejects it. -/
theorem ReloadPc.next_passed {s : System} {id : Nat} {result : Option String} {current pc : ReloadPc}
    {invocation : Option Invocation} (passed : current.passed = true)
    (moved : current.next s id result = some (pc, invocation)) : pc.passed = true := by
  cases current with
  | check | rejected => cases passed
  | reloading => cases moved; rfl
  | copying err =>
    simp only [ReloadPc.next] at moved
    split at moved <;> cases moved
    rfl
  | invoking err callbacks next =>
    simp only [ReloadPc.next] at moved
    split at moved <;> cases moved <;> rfl
  | returned => cases moved

/-- Every step keeps a call that is past its first section past it. -/
theorem step_passed {s next : System} {action : Action} (stepped : step s action = some next)
    {id : Nat} {call : ReloadCall} (current : s.observers.calls[id]? = some call)
    (passed : call.pc.passed = true) :
    ∃ pc, next.observers.calls[id]? = some { call with pc } ∧ pc.passed = true := by
  have bound : id < s.observers.calls.length := (List.getElem?_eq_some_iff.mp current).1
  rcases step_observers stepped with same | registered | begun |
      ⟨other, moving, result, pc, invocation, found, moved, advanced⟩
  · exact ⟨call.pc, by rw [same]; exact current, passed⟩
  · exact ⟨call.pc, by rw [registered]; exact current, passed⟩
  · refine ⟨call.pc, ?_, passed⟩
    rw [begun, Observers.begin, List.getElem?_append_left bound]
    exact current
  · rw [advanced]
    by_cases same : other = id
    · subst same
      cases current.symm.trans found
      exact ⟨pc, by simp [Observers.advance, List.getElem?_set_self bound],
        ReloadPc.next_passed passed moved⟩
    · exact ⟨call.pc, by simpa [Observers.advance, List.getElem?_set_ne same] using current, passed⟩

/-- A call past its first section stays past it along every run: it is never rejected. -/
theorem Run.passed {s last : System} {actions : List Action} (run : Run s actions last) {id : Nat}
    {call : ReloadCall} (current : s.observers.calls[id]? = some call) (passed : call.pc.passed = true) :
    ∃ pc, last.observers.calls[id]? = some { call with pc } ∧ pc.passed = true := by
  induction run generalizing call with
  | nil => exact ⟨call.pc, current, passed⟩
  | cons stepped _ ih =>
    obtain ⟨pc, moved, passedNow⟩ := step_passed stepped current passed
    exact (ih moved passedNow).imp fun _ found => found

/-- While no `Stop` holds `es.mu`, a call past its first section runs by its own steps to its
return, having invoked each callback of its copy once, in order, with the error it returns. -/
theorem passed_returns {s : System} {id : Nat} {call : ReloadCall} (invariant : s.observers.Invariant)
    (free : s.stop = .idle) (current : s.observers.calls[id]? = some call)
    (passed : call.pc.passed = true) :
    ∃ actions last err callbacks, Run s actions last ∧ OwnSteps id actions ∧
      last.observers.calls[id]? = some ⟨call.began, .returned err callbacks⟩ ∧
      Registered call.began last.observers.registrations callbacks ∧
      invocationsOf last.observers.invoked id = callbacks.map (·, err) := by
  obtain ⟨actions, last, run, own, returnedCall, found, done⟩ := reload_returns free current
  obtain ⟨pc, found', passedNow⟩ := run.passed current passed
  cases found.symm.trans found'
  have rest := ((invariant.run run).calls id _ found').2
  cases pc with
  | returned err callbacks => exact ⟨actions, last, err, callbacks, run, own, found', rest⟩
  | check | rejected => cases passedNow
  | _ => cases done

/-- In every state a run of the started server reaches, `es.reloadCallbacks` holds the
registrations in order. A call rejected by its first section has invoked no callback. A call that
copied the list invokes the callbacks of that copy, a prefix of the registrations holding at least
those completed when the call began, in order, each once, with the error it returns; once returned,
it has invoked exactly that copy. The copy is the list as it stands at the second section. While
no `Stop` holds `es.mu`, every call runs to its return by its own steps. A call whose first section
finds the server started with a bound reloader, manual or made by a timer callback, goes into
`Reload`; from there no interleaving rejects it, and while no `Stop` holds `es.mu` it returns by
its own steps having invoked its copy. -/
theorem reload_invokes_copied_callbacks (server : EmbeddedServer) (watcher : FileWatcher)
    {actions : List Action} {s : System} (run : Run (initial server watcher) actions s) :
    s.observers.reloadCallbacks = List.range s.observers.registrations ∧
    (∀ id call, s.observers.calls[id]? = some call →
      (∀ err, call.pc = .rejected err → invocationsOf s.observers.invoked id = []) ∧
      (∀ err callbacks next, call.pc = .invoking err callbacks next →
        Registered call.began s.observers.registrations callbacks ∧
          invocationsOf s.observers.invoked id = (callbacks.take next).map (·, err)) ∧
      (∀ err callbacks, call.pc = .returned err callbacks →
        Registered call.began s.observers.registrations callbacks ∧
          invocationsOf s.observers.invoked id = callbacks.map (·, err))) ∧
    (∀ id result err call next, step s (.reload id result) = some next →
      s.observers.calls[id]? = some call → call.pc = .copying err →
      next.observers.calls[id]? = some { call with pc := .invoking err s.observers.reloadCallbacks 0 }) ∧
    (∀ id call, s.observers.calls[id]? = some call → s.stop = .idle →
      ∃ actions last, Run s actions last ∧ OwnSteps id actions ∧ Returned last id) ∧
    (∀ id result call next, s.observers.calls[id]? = some call → call.pc = .check →
      s.server.started = true → s.server.reloader.isSome = true → step s (.reload id result) = some next →
      next.observers.calls[id]? = some { call with pc := .reloading }) ∧
    ∀ id call, s.observers.calls[id]? = some call → call.pc.passed = true →
      (∀ actions last, Run s actions last →
        ∃ pc, last.observers.calls[id]? = some { call with pc } ∧ pc.passed = true) ∧
      (s.stop = .idle → ∃ actions last err callbacks, Run s actions last ∧ OwnSteps id actions ∧
        last.observers.calls[id]? = some ⟨call.began, .returned err callbacks⟩ ∧
        Registered call.began last.observers.registrations callbacks ∧
        invocationsOf last.observers.invoked id = callbacks.map (·, err)) := by
  have invariant : s.observers.Invariant := Observers.Invariant.run ⟨rfl, by simp [initial], by simp [initial]⟩ run
  refine ⟨invariant.registered, fun id call current => ?_, fun _ _ _ _ _ stepped current copying =>
    step_copies stepped current copying, fun _ _ current free => reload_returns free current,
    fun _ _ _ _ current check started bound stepped => step_check stepped current check started bound,
    fun id call current passed => ⟨fun _ _ later => later.passed current passed,
      fun free => passed_returns invariant free current passed⟩⟩
  obtain ⟨-, rest⟩ := invariant.calls id call current
  refine ⟨fun err pc => ?_, fun err callbacks next pc => ?_, fun err callbacks pc => ?_⟩ <;>
    simpa only [pc] using rest

/-- A registration, a `ReloadSchema` call that copies the list, and a second registration while
it invokes. -/
def lateRegistration : List Action :=
  [.register, .call, .reload 0 none, .reload 0 none, .reload 0 none, .register, .reload 0 none,
    .reload 0 none]

/-- The call returns having invoked its copy, which holds the first registration only. -/
theorem late_registration_not_invoked :
    ∃ s, Run (initial started watched) lateRegistration s ∧ s.observers.registrations = 2 ∧
      ∃ callbacks, s.observers.calls[0]? = some ⟨1, .returned none callbacks⟩ ∧
        callbacks = [0] ∧ Registered 1 2 callbacks ∧
        invocationsOf s.observers.invoked 0 = callbacks.map (·, none) :=
  have run := @run_of_runFrom (initial started watched) _ lateRegistration rfl
  have returned := ((reload_invokes_copied_callbacks started watched run).2.1 0 _ rfl).2.2 none _ rfl
  ⟨_, run, rfl, _, rfl, rfl, returned⟩

/-! ## The watcher inside the system -/

/-- Each step of the system moves its watcher by a run of the watcher model. -/
theorem step_watcher {s next : System} {action : Action} (stepped : step s action = some next) :
    ∃ labels, Trace s.watcher labels next.watcher := by
  rcases step_cases stepped with ⟨-, rfl⟩ | ⟨-, rfl⟩ | rfl | ⟨_, _, _, _, _, -, -, rfl⟩ |
      ⟨_, _, _, moved, rfl⟩ | ⟨-, _, _, moved, rfl⟩ | ⟨-, rfl⟩ | ⟨-, rfl⟩ |
      ⟨-, -, _, _, _, _, first, second, rfl⟩ | ⟨-, rfl⟩
  all_goals first
    | exact ⟨[], .nil _⟩
    | exact ⟨_, .cons moved (.nil _)⟩
    | exact ⟨_, .cons first (.cons second (.nil _))⟩

/-- The watcher of every run of the system runs as the watcher model, so it keeps the watcher's
invariant: changes pending while it runs always have a live timer, and only configured paths are
pending. -/
theorem Run.watcherTrace {s last : System} {actions : List Action} (run : Run s actions last) :
    ∃ labels, Trace s.watcher labels last.watcher := by
  induction run with
  | nil => exact ⟨[], .nil _⟩
  | cons stepped _ ih =>
    obtain ⟨first, left⟩ := step_watcher stepped
    obtain ⟨second, right⟩ := ih
    exact ⟨_, left.append right⟩

theorem Run.watcherInvariant {server : EmbeddedServer} {cwd : String} {files : List String}
    {last : System} {actions : List Action}
    (run : Run (initial server (FileWatcher.start cwd files)) actions last) : Watch.Invariant last.watcher := by
  obtain ⟨_, trace⟩ := run.watcherTrace
  exact (invariant_start cwd files).trace trace

/-! ## The server inside the system -/

/-- Only the end of `Stop` changes the server. -/
theorem step_server {s next : System} {action : Action} (stepped : step s action = some next) :
    next.server = s.server ∨ next.server = s.server.stop := by
  rcases step_cases stepped with ⟨-, rfl⟩ | ⟨-, rfl⟩ | rfl | ⟨_, _, _, _, _, -, -, rfl⟩ |
      ⟨_, _, _, -, rfl⟩ | ⟨-, _, _, -, rfl⟩ | ⟨-, rfl⟩ | ⟨-, rfl⟩ |
      ⟨-, -, _, _, _, _, -, -, rfl⟩ | ⟨-, rfl⟩
  all_goals first
    | exact .inl rfl
    | exact .inr rfl

/-- On a server that keeps `ConnInvariant`, no step of a call rejects it for a missing reloader. -/
theorem ReloadPc.next_ne_unbound {s : System} (invariant : ConnInvariant s.server) {id : Nat}
    {result : Option String} {invocation : Option Invocation} (current : ReloadPc) :
    current.next s id result ≠ some (.rejected "no schema reloader available", invocation) := by
  intro moved
  cases current with
  | check =>
    simp only [ReloadPc.next] at moved
    split_ifs at moved with writing stopped unbound
    · simp at moved
    · obtain ⟨_, -, reloader, -⟩ := invariant.bound (by simpa using stopped)
      simp [reloader] at unbound
    · simp at moved
  | invoking err callbacks next =>
    simp only [ReloadPc.next] at moved
    split at moved <;> simp at moved
  | _ => simp [ReloadPc.next] at moved

/-- The unbound-reloader check of every call has passed or not been made. -/
def NoUnbound (s : System) : Prop :=
  ∀ call ∈ s.observers.calls, call.pc ≠ .rejected "no schema reloader available"

theorem NoUnbound.step {s next : System} {action : Action} (invariant : ConnInvariant s.server)
    (noUnbound : NoUnbound s) (stepped : step s action = some next) :
    ConnInvariant next.server ∧ NoUnbound next := by
  refine ⟨?_, fun call member => ?_⟩
  · rcases step_server stepped with same | stopped
    · exact same ▸ invariant
    · exact stopped ▸ invariant.stop
  rcases step_observers stepped with same | registered | begun |
      ⟨id, moving, result, pc, invocation, -, moved, advanced⟩
  · exact noUnbound call (same ▸ member)
  · rw [registered] at member
    exact noUnbound call member
  · simp only [begun, Observers.begin, List.mem_append, List.mem_singleton] at member
    rcases member with earlier | rfl
    · exact noUnbound call earlier
    · simp
  · rw [advanced] at member
    rcases List.mem_or_eq_of_mem_set member with earlier | rfl
    · exact noUnbound call earlier
    · exact fun rejected =>
        ReloadPc.next_ne_unbound invariant moving.pc ((show pc = _ from rejected) ▸ moved)

theorem NoUnbound.run {s last : System} {actions : List Action} (invariant : ConnInvariant s.server)
    (noUnbound : NoUnbound s) (steps : Run s actions last) : ConnInvariant last.server ∧ NoUnbound last := by
  induction steps with
  | nil => exact ⟨invariant, noUnbound⟩
  | cons stepped _ ih =>
    obtain ⟨invariant, noUnbound⟩ := noUnbound.step invariant stepped
    exact ih invariant noUnbound

/-- After any sequence of whole calls from `New`, every interleaving of the threads keeps the
connection invariant, and two error branches stay dead: no `ReloadSchema` call fails with
`no schema reloader available`, and `Client` never fails with `no connection available`. -/
theorem unbound_errors_unreachable (calls : List Call) (watcher : FileWatcher) {actions : List Action}
    {s : System} (steps : Run (initial (run new calls) watcher) actions s) :
    ConnInvariant s.server ∧ NoUnbound s ∧ s.server.client ≠ .error "no connection available" := by
  obtain ⟨invariant, noUnbound⟩ :=
    NoUnbound.run (connInvariant_run calls) (fun _ member => by simp [initial] at member) steps
  refine ⟨invariant, noUnbound, ?_⟩
  rcases invariant.client with ⟨-, notStarted⟩ | ⟨_, -, connected, -⟩
  · simp [notStarted]
  · simp [connected]

theorem late_registration_keeps_connection :
    ∃ s, Run (initial (run new [.start none connectAtOnce]) watched) lateRegistration s ∧
      ConnInvariant s.server ∧ NoUnbound s ∧ s.server.client ≠ .error "no connection available" :=
  have run := @run_of_runFrom (initial (run new [.start none connectAtOnce]) watched) _
    lateRegistration rfl
  ⟨_, run, unbound_errors_unreachable [.start none connectAtOnce] watched run⟩

/-! ## `Stop` against a watcher-triggered reload -/

/-- The call's next step is a section under `es.mu` for reading. -/
def ReloadPc.readsNext : ReloadPc → Bool
  | .check | .copying _ => true
  | _ => false

/-- `Stop` holds `es.mu` for writing and waits for `fw.mu`, while the timer callback holding
`fw.mu` waits in `ReloadSchema` for `es.mu`, before its reload or after it. -/
def Deadlocked (s : System) : Prop :=
  s.stop = .stoppingWatcher ∧ s.holderCall.any (·.pc.readsNext) = true

instance : DecidablePred Deadlocked := fun s => by unfold Deadlocked; infer_instance

theorem holderCall_begin {s : System} {id : Nat} (holder : s.fwHolder = some id)
    (call : ReloadCall) (current : s.observers.calls[id]? = some call) :
    { s with observers := s.observers.begin }.holderCall = some call := by
  have bound : id < s.observers.calls.length := (List.getElem?_eq_some_iff.mp current).1
  simp [System.holderCall, holder, Observers.begin, List.getElem?_append_left bound, current]

/-- No step moves either thread of a deadlock, nor releases a lock either holds. -/
theorem Deadlocked.step {s next : System} {action : Action} (deadlocked : Deadlocked s)
    (stepped : step s action = some next) :
    next.stop = s.stop ∧ next.fwHolder = s.fwHolder ∧ next.holderCall = s.holderCall := by
  obtain ⟨stopping, waiting⟩ := deadlocked
  have writing : s.writing = true := by simp [System.writing, stopping]
  obtain ⟨id, holder⟩ : ∃ id, s.fwHolder = some id := by
    cases held : s.fwHolder <;> simp_all [System.holderCall]
  obtain ⟨call, current, reads⟩ : ∃ call, s.observers.calls[id]? = some call ∧ call.pc.readsNext := by
    cases found : s.observers.calls[id]? with
    | none => simp [System.holderCall, holder, found] at waiting
    | some call => exact ⟨call, rfl, by simpa [System.holderCall, holder, found] using waiting⟩
  rcases step_cases stepped with ⟨free, -⟩ | ⟨free, -⟩ | rfl |
      ⟨other, result, moving, pc, invocation, found, moved, rfl⟩ | ⟨_, _, _, -, rfl⟩ |
      ⟨free, -⟩ | ⟨done, -⟩ | ⟨free, -⟩ | ⟨-, free, -⟩ | ⟨closing, -⟩
  -- a reader section and `OnSchemaReloaded` wait for `es.mu`
  · simp [writing] at free
  · simp [writing] at free
  · exact ⟨rfl, rfl, (holderCall_begin holder call current).trans
      (by simp [System.holderCall, holder, current])⟩
  -- the holder's call waits for `es.mu`; another call leaves it where it is
  · by_cases same : other = id
    · subst same
      cases current.symm.trans found
      cases pc' : call.pc <;> simp_all [ReloadPc.readsNext, ReloadPc.next]
    · refine ⟨rfl, rfl, ?_⟩
      simp [System.holderCall, holder, Observers.advance, List.getElem?_set_ne same]
  · exact ⟨rfl, rfl, rfl⟩
  -- no callback takes `fw.mu` from its holder, and the holder has not returned
  · simp [holder] at free
  · have notDone : call.pc.done = false := by
      cases pc : call.pc <;> simp_all [ReloadPc.readsNext, ReloadPc.done]
    simp [System.holderCall, holder, current, notDone] at done
  -- `Stop` holds `es.mu` and waits for `fw.mu`
  · simp [writing] at free
  · simp [holder] at free
  · simp [stopping] at closing

/-- A deadlock lasts: in every continuation, `Stop` still waits for `fw.mu` and the callback still
waits for `es.mu`. -/
theorem Deadlocked.run {s last : System} {actions : List Action} (deadlocked : Deadlocked s)
    (run : Run s actions last) :
    Deadlocked last ∧ last.stop = s.stop ∧ last.holderCall = s.holderCall := by
  induction run with
  | nil => exact ⟨deadlocked, rfl, rfl⟩
  | cons stepped _ ih =>
    obtain ⟨stop, -, holder⟩ := deadlocked.step stepped
    obtain ⟨stuck, lastStop, lastHolder⟩ := ih ⟨stop ▸ deadlocked.1, holder ▸ deadlocked.2⟩
    exact ⟨stuck, lastStop.trans stop, lastHolder.trans holder⟩

/-- A write to `/s.zed`, its timer firing, and its callback taking `fw.mu` to call `reloadFunc`;
then `Stop` takes `es.mu` before the reload's first section. -/
def stopBeforeReload : List Action :=
  [.event ⟨"/s.zed", Op.Write⟩, .fire 0, .callback 0, .stopLock]

/-- As `stopBeforeReload`, but `Stop` takes `es.mu` while `WriteSchema` is in flight, and the
reload returns before its second section. -/
def stopDuringReload : List Action :=
  [.event ⟨"/s.zed", Op.Write⟩, .fire 0, .callback 0, .reload 0 none, .stopLock, .reload 0 none]

/-- `Stop` issued while a watcher-triggered reload is in flight deadlocks, whether it takes `es.mu`
before the reload's first section or while its `WriteSchema` is in flight: `Stop` holds `es.mu`
and waits for `fw.mu`, the callback holds `fw.mu` and waits for `es.mu`, and no continuation moves
either. -/
theorem stop_deadlocks_with_watcher_reload :
    (∃ stuck, Run (initial started watched) stopBeforeReload stuck ∧ Deadlocked stuck ∧
      (stuck.holderCall.map (·.pc)) = some .check) ∧
    (∃ stuck, Run (initial started watched) stopDuringReload stuck ∧ Deadlocked stuck ∧
      (stuck.holderCall.map (·.pc)) = some (.copying none)) ∧
    ∀ stuck, Deadlocked stuck → ∀ actions last, Run stuck actions last →
      Deadlocked last ∧ last.stop = stuck.stop ∧ last.holderCall = stuck.holderCall :=
  ⟨⟨_, run_of_runFrom rfl, by decide, rfl⟩, ⟨_, run_of_runFrom rfl, by decide, rfl⟩,
    fun _ deadlocked _ _ run => deadlocked.run run⟩

/-! ## `Stop` against a manual reload -/

/-- `ReloadSchema` runs `Reload` outside `es.mu`, and `Stop` does not wait for it. In every
interleaving after any whole calls from `New`, take a started server with a `ReloadSchema` call
inside `Reload`, no `Stop` running, and no timer callback holding `fw.mu`. Then `Stop` runs to its
end and closes the connection the call's reloader is bound to. The call is still inside `Reload`,
and goes on to its callbacks with whatever error `Reload` then returns. -/
theorem stop_closes_connection_under_reload (calls : List Call) (watcher : FileWatcher)
    {actions : List Action} {s : System} (steps : Run (initial (run new calls) watcher) actions s)
    (idle : s.stop = .idle) (free : s.fwHolder = none) (started : s.server.started = true)
    (id : Nat) {call : ReloadCall} (inFlight : s.observers.calls[id]? = some call)
    (reloading : call.pc = .reloading) :
    ∃ conn last, s.server.reloader = some conn ∧
      runFrom s [.stopLock, .stopWatcher, .stopClose] = some last ∧
      .conn conn ∈ last.server.closed ∧ last.server.started = false ∧
      last.observers.calls[id]? = some call ∧ ∀ result, (step last (.reload id result)).isSome := by
  have invariant :=
    (NoUnbound.run (connInvariant_run calls) (fun _ member => by simp [initial] at member) steps).1
  obtain ⟨conn, current, reloader, -⟩ := invariant.bound started
  let stoppedWatcher : FileWatcher := { s.watcher.stopLocked with cancelled := true }
  let last : System := { s with server := s.server.stop, watcher := stoppedWatcher, stop := .idle }
  refine ⟨conn, last, reloader, ?_, ?_, stop_started _, inFlight, fun result => ?_⟩
  · simp [runFrom, step, System.writing, idle, started, free, Watch.step, stopLocked, last, stoppedWatcher]
  · simp [closed_stop started current]
  · simp [step, inFlight, reloading, ReloadPc.next]

/-- A manual `ReloadSchema` call that has passed its first section and is inside `Reload`. -/
def manualReload : List Action := [.call, .reload 0 none]

theorem stop_closes_manual_reload_connection :
    ∃ s, Run (initial (run new [.start none connectAtOnce]) watched) manualReload s ∧
      s.stop = .idle ∧ s.fwHolder = none ∧ s.server.started = true ∧
      s.observers.calls[0]? = some ⟨0, .reloading⟩ ∧ ReloadPc.reloading = .reloading ∧
      ∃ conn last, s.server.reloader = some conn ∧
        runFrom s [.stopLock, .stopWatcher, .stopClose] = some last ∧
        .conn conn ∈ last.server.closed ∧ last.server.started = false ∧
        last.observers.calls[0]? = some ⟨0, .reloading⟩ ∧
        ∀ result, (step last (.reload 0 result)).isSome :=
  have run := @run_of_runFrom (initial (run new [.start none connectAtOnce]) watched) _ manualReload rfl
  ⟨_, run, rfl, rfl, rfl, rfl, rfl,
    stop_closes_connection_under_reload [.start none connectAtOnce] watched run rfl rfl rfl 0 rfl rfl⟩

end EmbedSpiceDB.Server
