import EmbedSpiceDB.Path

/-! # `internal/watch/watcher.go`

A `FileWatcher` records each qualifying event in `pending` and re-arms a debounce timer; the
timer's callback flushes `pending` with one call of `reloadFunc`, under the same mutex `fw.mu`.
Each step below is one section under `fw.mu`, or a step of the runtime: a timer firing, whose
callback goroutine checks `fw.ctx` before it waits for the mutex. `timer.Stop()` does not stop a
timer that has already fired, so a stale callback can still run its section. `Stop` takes the
mutex, sets `stopped`, stops the current timer and clears `pending`, then cancels `fw.ctx`.
-/

namespace EmbedSpiceDB.Watch

/-! ### fsnotify's `Op` bits -/

namespace Op

def Create : UInt32 := 1
def Write : UInt32 := 2
def Remove : UInt32 := 4
def Rename : UInt32 := 8
def Chmod : UInt32 := 16

end Op

/-- An fsnotify event: the path it names and its `Op` bitmask. -/
structure Event where
  name : String
  op : UInt32
deriving DecidableEq, Repr

/-- Where a timer made by `time.AfterFunc` is. -/
inductive TimerState where
  /-- Waiting for its delay. -/
  | armed
  /-- `timer.Stop()` took it off before it fired; its callback never runs. -/
  | stopped
  /-- It fired: its callback passed the `fw.ctx` check and waits for `fw.mu`. -/
  | fired
  /-- Its callback returned. -/
  | done
deriving DecidableEq, Repr

/-- The fields of `FileWatcher` that its event handling reads and writes. -/
structure FileWatcher where
  /-- The keys of `fw.absFiles`: the absolute paths of the configured files. -/
  absFiles : List String
  /-- The keys of `fw.pending`; their timestamps are never read. -/
  pending : List String
  /-- `fw.timer`, as the index of the timer it refers to. -/
  timer : Option Nat
  /-- Every timer `time.AfterFunc` has made, in order. -/
  timers : List TimerState
  stopped : Bool
  /-- `fw.ctx` has been cancelled. -/
  cancelled : Bool
deriving DecidableEq, Repr

namespace FileWatcher

/-- `NewFileWatcher` and a successful `Start`: nothing pending and no timer yet. `absFiles` holds
`filepath.Abs` of each configured file, `cwd` being the working directory. -/
def start (cwd : String) (files : List String) : FileWatcher :=
  ⟨files.map (Path.abs cwd), [], none, [], false, false⟩

/-- `isWatchedFile`. -/
def isWatchedFile (fw : FileWatcher) (path : String) : Bool := path ∈ fw.absFiles

/-- `event.Op&fsnotify.Write == fsnotify.Write || event.Op&fsnotify.Create == fsnotify.Create`. -/
def qualifies (op : UInt32) : Bool := op &&& Op.Write == Op.Write || op &&& Op.Create == Op.Create

/-- `timer.Stop()`: an armed timer will never fire; a fired one runs its callback anyway. -/
def stopTimer (timers : List TimerState) (index : Nat) : List TimerState :=
  if timers[index]? = some .armed then timers.set index .stopped else timers

/-- The timers after `fw.timer.Stop()`, when `fw.timer` refers to one. -/
def stopCurrent (fw : FileWatcher) : List TimerState :=
  match fw.timer with
  | some index => stopTimer fw.timers index
  | none => fw.timers

/-- `handleFileChange`, under `fw.mu`: record the path, stop the current timer and arm a new one. -/
def handleFileChange (fw : FileWatcher) (filePath : String) : FileWatcher :=
  if fw.stopped then fw
  else
    let timers := fw.stopCurrent
    { fw with pending := fw.pending.insert filePath, timers := timers ++ [.armed],
              timer := some timers.length }

/-- The section of a timer callback under `fw.mu`: nothing when stopped or nothing is pending,
otherwise clear `pending` and call `reloadFunc` (the flag). -/
def flush (fw : FileWatcher) : FileWatcher × Bool :=
  if fw.stopped || fw.pending.isEmpty then (fw, false) else ({ fw with pending := [] }, true)

/-- The section of `Stop` under `fw.mu`. -/
def stopLocked (fw : FileWatcher) : FileWatcher :=
  { fw with stopped := true, timers := fw.stopCurrent, timer := none, pending := [] }

end FileWatcher

open FileWatcher

/-- A step of the watcher and its runtime. -/
inductive Action where
  /-- `watchLoop` receives an event. -/
  | event (event : Event)
  /-- Timer `index` fires; its callback goroutine checks `fw.ctx`. -/
  | fire (index : Nat)
  /-- The callback of timer `index` runs its section under `fw.mu`. -/
  | callback (index : Nat)
  /-- The section of `Stop` under `fw.mu`. -/
  | stop
  /-- `fw.cancel()` in `Stop`, after its section. -/
  | cancel
deriving DecidableEq, Repr

/-- One step, with whether it called `reloadFunc`; `none` when the step cannot happen. -/
def step (fw : FileWatcher) : Action → Option (FileWatcher × Bool)
  | .event event =>
    some (if fw.isWatchedFile event.name && qualifies event.op then fw.handleFileChange event.name
      else fw, false)
  | .fire index =>
    if fw.timers[index]? = some .armed then
      some ({ fw with timers := fw.timers.set index (if fw.cancelled then .done else .fired) }, false)
    else none
  | .callback index =>
    if fw.timers[index]? = some .fired then some (flush { fw with timers := fw.timers.set index .done })
    else none
  | .stop => some (fw.stopLocked, false)
  | .cancel => if fw.stopped then some ({ fw with cancelled := true }, false) else none

/-- A run of steps from one watcher state to another, each labelled with its action and whether it
called `reloadFunc`. -/
inductive Trace : FileWatcher → List (Action × Bool) → FileWatcher → Prop
  | nil (fw : FileWatcher) : Trace fw [] fw
  | cons {fw next last : FileWatcher} {action : Action} {reloaded : Bool}
      {labels : List (Action × Bool)} :
      step fw action = some (next, reloaded) → Trace next labels last →
      Trace fw ((action, reloaded) :: labels) last

/-! ## Field lemmas -/

namespace FileWatcher

@[simp] theorem length_stopTimer (timers : List TimerState) (index : Nat) :
    (stopTimer timers index).length = timers.length := by
  unfold stopTimer
  split <;> simp

@[simp] theorem length_stopCurrent (fw : FileWatcher) : fw.stopCurrent.length = fw.timers.length := by
  unfold stopCurrent
  split <;> simp

@[simp] theorem handleFileChange_absFiles (fw : FileWatcher) (filePath : String) :
    (fw.handleFileChange filePath).absFiles = fw.absFiles := by
  unfold handleFileChange
  split <;> rfl

@[simp] theorem handleFileChange_stopped (fw : FileWatcher) (filePath : String) :
    (fw.handleFileChange filePath).stopped = fw.stopped := by
  unfold handleFileChange
  split <;> rfl

@[simp] theorem handleFileChange_cancelled (fw : FileWatcher) (filePath : String) :
    (fw.handleFileChange filePath).cancelled = fw.cancelled := by
  unfold handleFileChange
  split <;> rfl

/-- A recorded path stays pending through any later event. -/
theorem pending_subset_handleFileChange (fw : FileWatcher) (filePath : String) :
    fw.pending ⊆ (fw.handleFileChange filePath).pending := by
  unfold handleFileChange
  split
  · exact List.Subset.refl _
  · exact fun path member => List.mem_insert_iff.mpr (.inr member)

end FileWatcher

/-! ## One step -/

section Step

variable {fw next : FileWatcher} {action : Action} {reloaded : Bool}

/-- An event is recorded when it names a configured file and has the `Write` or `Create` bit. -/
def Records (absFiles : List String) : Action → Prop
  | .event event => event.name ∈ absFiles ∧ qualifies event.op = true
  | _ => False

/-- Any other event leaves the watcher as it was. -/
theorem step_event_ignored {event : Event}
    (ignored : event.name ∉ fw.absFiles ∨ qualifies event.op = false) :
    step fw (.event event) = some (fw, false) := by
  have : (fw.isWatchedFile event.name && qualifies event.op) = false := by
    rcases ignored with absent | other
    · simp [isWatchedFile, absent]
    · simp [other]
  simp [step, this]

/-- The section of a callback either changes nothing, or flushes a running watcher's changes. -/
theorem flush_cases {fw next : FileWatcher} (flushed : (next, reloaded) = flush fw) :
    reloaded = false ∧ next = fw ∧ (fw.stopped = true ∨ fw.pending = []) ∨
      reloaded = true ∧ fw.stopped = false ∧ fw.pending ≠ [] ∧ next = { fw with pending := [] } := by
  unfold flush at flushed
  split at flushed
  · rename_i idle
    simp only [Bool.or_eq_true, List.isEmpty_iff] at idle
    cases flushed
    exact .inl ⟨rfl, rfl, idle⟩
  · rename_i running
    simp only [Bool.or_eq_true, List.isEmpty_iff, not_or, Bool.not_eq_true] at running
    cases flushed
    exact .inr ⟨rfl, running.1, running.2, rfl⟩

/-- What one step can do. -/
theorem step_cases (stepped : step fw action = some (next, reloaded)) :
    (∃ event, action = .event event ∧ reloaded = false ∧
      next = if fw.isWatchedFile event.name && qualifies event.op then fw.handleFileChange event.name
        else fw) ∨
    (∃ index, action = .fire index ∧ reloaded = false ∧ fw.timers[index]? = some .armed ∧
      next = { fw with timers := fw.timers.set index (if fw.cancelled then .done else .fired) }) ∨
    (∃ index, action = .callback index ∧ fw.timers[index]? = some .fired ∧
      (next, reloaded) = flush { fw with timers := fw.timers.set index .done }) ∨
    (action = .stop ∧ reloaded = false ∧ next = fw.stopLocked) ∨
    (action = .cancel ∧ reloaded = false ∧ fw.stopped = true ∧ next = { fw with cancelled := true }) := by
  cases action with
  | event event => cases stepped; exact .inl ⟨event, rfl, rfl, rfl⟩
  | fire index =>
    simp only [step] at stepped
    split at stepped <;> cases stepped
    exact .inr (.inl ⟨index, rfl, rfl, ‹_›, rfl⟩)
  | callback index =>
    simp only [step] at stepped
    split at stepped
    · exact .inr (.inr (.inl ⟨index, rfl, ‹_›, (Option.some.inj stepped).symm⟩))
    · cases stepped
  | stop => cases stepped; exact .inr (.inr (.inr (.inl ⟨rfl, rfl, rfl⟩)))
  | cancel =>
    simp only [step] at stepped
    split at stepped <;> cases stepped
    exact .inr (.inr (.inr (.inr ⟨rfl, rfl, ‹_›, rfl⟩)))

theorem step_absFiles (stepped : step fw action = some (next, reloaded)) :
    next.absFiles = fw.absFiles := by
  rcases step_cases stepped with ⟨_, -, -, rfl⟩ | ⟨_, -, -, -, rfl⟩ | ⟨_, -, -, flushed⟩ |
    ⟨-, -, rfl⟩ | ⟨-, -, -, rfl⟩
  · split <;> simp
  · rfl
  · rcases flush_cases flushed with ⟨-, rfl, -⟩ | ⟨-, -, -, rfl⟩ <;> rfl
  · rfl
  · rfl

/-- `stopped` is set by `Stop` and by nothing else, and never cleared. -/
theorem step_stopped (stepped : step fw action = some (next, reloaded)) :
    next.stopped = (fw.stopped || decide (action = .stop)) := by
  rcases step_cases stepped with ⟨_, rfl, -, rfl⟩ | ⟨_, rfl, -, -, rfl⟩ | ⟨_, rfl, -, flushed⟩ |
    ⟨rfl, -, rfl⟩ | ⟨rfl, -, -, rfl⟩
  · split <;> simp
  · simp
  · rcases flush_cases flushed with ⟨-, rfl, -⟩ | ⟨-, -, -, rfl⟩ <;> simp
  · simp [stopLocked]
  · simp

/-- `reloadFunc` is called only by a callback that finds the watcher running with changes pending,
and it leaves nothing pending. -/
theorem step_reloaded (stepped : step fw action = some (next, true)) :
    (∃ index, action = .callback index) ∧ fw.stopped = false ∧ fw.pending ≠ [] ∧ next.pending = [] := by
  rcases step_cases stepped with ⟨_, -, quiet, -⟩ | ⟨_, -, quiet, -⟩ | ⟨index, rfl, -, flushed⟩ |
    ⟨-, quiet, -⟩ | ⟨-, quiet, -⟩
  · cases quiet
  · cases quiet
  · rcases flush_cases flushed with ⟨quiet, -, -⟩ | ⟨-, running, pending, rfl⟩
    · cases quiet
    · exact ⟨⟨index, rfl⟩, running, pending, rfl⟩
  · cases quiet
  · cases quiet

/-- Only `Stop` and a reloading callback remove a pending path. -/
theorem step_pending_subset (stepped : step fw action = some (next, false)) (running : action ≠ .stop) :
    fw.pending ⊆ next.pending := by
  rcases step_cases stepped with ⟨_, -, -, rfl⟩ | ⟨_, -, -, -, rfl⟩ | ⟨_, -, -, flushed⟩ |
    ⟨stop, -, -⟩ | ⟨-, -, -, rfl⟩
  · split
    · exact pending_subset_handleFileChange _ _
    · exact List.Subset.refl _
  · exact List.Subset.refl _
  · rcases flush_cases flushed with ⟨-, rfl, -⟩ | ⟨quiet, -⟩
    · exact List.Subset.refl _
    · cases quiet
  · exact absurd stop running
  · exact List.Subset.refl _

/-- With nothing pending, only a recorded event makes something pending. -/
theorem step_pending_nil (stepped : step fw action = some (next, reloaded)) (empty : fw.pending = [])
    (unrecorded : ¬Records fw.absFiles action) : next.pending = [] := by
  rcases step_cases stepped with ⟨event, rfl, -, rfl⟩ | ⟨_, -, -, -, rfl⟩ | ⟨_, -, -, flushed⟩ |
    ⟨-, -, rfl⟩ | ⟨-, -, -, rfl⟩
  · have ignored : (fw.isWatchedFile event.name && qualifies event.op) = false := by
      simpa [Records, isWatchedFile] using unrecorded
    simpa [ignored] using empty
  · exact empty
  · rcases flush_cases flushed with ⟨-, rfl, -⟩ | ⟨-, -, -, rfl⟩
    · exact empty
    · rfl
  · rfl
  · exact empty

/-- A recorded event on a running watcher makes its path pending. -/
theorem step_recorded {event : Event} (recorded : Records fw.absFiles (.event event))
    (running : fw.stopped = false) (stepped : step fw (.event event) = some (next, reloaded)) :
    event.name ∈ next.pending := by
  obtain ⟨member, qualified⟩ := recorded
  simp only [step, isWatchedFile, decide_eq_true member, qualified, Bool.and_self, if_true,
    Option.some.injEq, Prod.mk.injEq] at stepped
  rw [← stepped.1]
  simp [handleFileChange, running, List.mem_insert_self]

end Step

/-! ## The watcher invariant -/

/-- What holds in every state a watcher reaches. -/
structure Invariant (fw : FileWatcher) : Prop where
  cancelledStopped : fw.cancelled = true → fw.stopped = true
  stoppedClear : fw.stopped = true → fw.pending = [] ∧ fw.timer = none
  /-- `fw.timer` refers to the timer armed last. -/
  timerLast : ∀ index, fw.timer = some index → index + 1 = fw.timers.length
  /-- While the watcher runs with changes pending, the current timer has neither been stopped
  nor run its section. -/
  pendingLive : fw.stopped = false → fw.pending ≠ [] →
    ∃ index, fw.timer = some index ∧
      (fw.timers[index]? = some .armed ∨ fw.timers[index]? = some .fired)
  pendingWatched : ∀ path ∈ fw.pending, path ∈ fw.absFiles

theorem invariant_start (cwd : String) (files : List String) : Invariant (start cwd files) :=
  ⟨by simp [start], by simp [start], by simp [start], by simp [start], by simp [start]⟩

/-- Every step keeps the invariant. -/
theorem Invariant.step {fw next : FileWatcher} {action : Action} {reloaded : Bool}
    (invariant : Invariant fw) (stepped : step fw action = some (next, reloaded)) : Invariant next := by
  obtain ⟨cancelledStopped, stoppedClear, timerLast, pendingLive, pendingWatched⟩ := invariant
  rcases step_cases stepped with ⟨event, -, -, rfl⟩ | ⟨index, -, -, armed, rfl⟩ |
    ⟨index, -, -, flushed⟩ | ⟨-, -, rfl⟩ | ⟨-, -, stopped, rfl⟩
  · -- an event
    split
    · rename_i recorded
      simp only [Bool.and_eq_true, isWatchedFile, decide_eq_true_eq] at recorded
      unfold handleFileChange
      split
      · exact ⟨cancelledStopped, stoppedClear, timerLast, pendingLive, pendingWatched⟩
      · rename_i running
        refine ⟨cancelledStopped, fun stopped => absurd stopped running, by simp,
          fun _ _ => ⟨_, rfl, .inl (List.getElem?_concat_length _ _)⟩, fun path member => ?_⟩
        rcases List.mem_insert_iff.mp member with rfl | earlier
        · exact recorded.1
        · exact pendingWatched path earlier
    · exact ⟨cancelledStopped, stoppedClear, timerLast, pendingLive, pendingWatched⟩
  · -- a timer fires
    refine ⟨cancelledStopped, stoppedClear, by simpa using timerLast, fun running pending => ?_,
      pendingWatched⟩
    obtain ⟨current, isCurrent, live⟩ := pendingLive running pending
    refine ⟨current, isCurrent, ?_⟩
    have notCancelled : fw.cancelled = false := by
      cases cancelled : fw.cancelled
      · rfl
      · simp [cancelledStopped cancelled] at running
    have bound : index < fw.timers.length := (List.getElem?_eq_some_iff.mp armed).1
    by_cases same : index = current
    · subst same
      simp [List.getElem?_set, bound, notCancelled]
    · simpa [List.getElem?_set, same] using live
  · -- a callback's section
    rcases flush_cases flushed with ⟨-, rfl, idle⟩ | ⟨-, -, -, rfl⟩
    · refine ⟨cancelledStopped, stoppedClear, by simpa using timerLast, fun running pending => ?_,
        pendingWatched⟩
      rcases idle with stopped | empty
      · exact Bool.noConfusion (running.symm.trans stopped)
      · exact absurd empty pending
    · exact ⟨cancelledStopped, fun stopped => ⟨rfl, (stoppedClear stopped).2⟩,
        by simpa using timerLast, fun _ pending => absurd rfl pending, by simp⟩
  · -- the section of `Stop`
    exact ⟨fun _ => rfl, fun _ => ⟨rfl, rfl⟩, by simp [stopLocked], by simp [stopLocked],
      by simp [stopLocked]⟩
  · -- `fw.cancel()`
    exact ⟨fun _ => stopped, stoppedClear, timerLast, pendingLive, pendingWatched⟩

/-! ## Runs -/

namespace Trace

variable {fw last : FileWatcher} {labels : List (Action × Bool)}

/-- A run splits at any point into two runs through the same state. -/
theorem split {first second : List (Action × Bool)} (trace : Trace fw (first ++ second) last) :
    ∃ middle, Trace fw first middle ∧ Trace middle second last := by
  induction first generalizing fw with
  | nil => exact ⟨fw, .nil fw, trace⟩
  | cons label rest ih =>
    cases trace with
    | cons stepped tail =>
      obtain ⟨middle, left, right⟩ := ih tail
      exact ⟨middle, .cons stepped left, right⟩

theorem append {middle : FileWatcher} {first second : List (Action × Bool)}
    (left : Trace fw first middle) (right : Trace middle second last) :
    Trace fw (first ++ second) last := by
  induction left with
  | nil => exact right
  | cons stepped _ ih => exact .cons stepped (ih right)

theorem absFiles (trace : Trace fw labels last) : last.absFiles = fw.absFiles := by
  induction trace with
  | nil => rfl
  | cons stepped _ ih => rw [ih, step_absFiles stepped]

/-- Without `Stop`, a run stays running. -/
theorem running (trace : Trace fw labels last) (running : fw.stopped = false)
    (noStop : ∀ label ∈ labels, label.1 ≠ .stop) : last.stopped = false := by
  induction trace with
  | nil => exact running
  | cons stepped _ ih =>
    obtain ⟨first, later⟩ := List.forall_mem_cons.mp noStop
    exact ih (by simp [step_stopped stepped, running, first]) later

/-- After `Stop`, no step calls `reloadFunc`. -/
theorem silent_of_stopped (trace : Trace fw labels last) (stopped : fw.stopped = true) :
    ∀ label ∈ labels, label.2 = false := by
  induction trace with
  | nil => simp
  | @cons fw next _ action reloaded _ stepped _ ih =>
    refine List.forall_mem_cons.mpr ⟨?_, ih (by simp [step_stopped stepped, stopped])⟩
    cases reloaded
    · rfl
    · simp [(step_reloaded stepped).2.1] at stopped

/-- From a state with nothing pending, a run without a recorded event keeps nothing pending and
never calls `reloadFunc`. -/
theorem idle (trace : Trace fw labels last) (empty : fw.pending = [])
    (unrecorded : ∀ label ∈ labels, ¬Records fw.absFiles label.1) :
    last.pending = [] ∧ ∀ label ∈ labels, label.2 = false := by
  induction trace with
  | nil => simp [empty]
  | @cons fw next _ action reloaded _ stepped _ ih =>
    obtain ⟨first, later⟩ := List.forall_mem_cons.mp unrecorded
    obtain ⟨lastEmpty, silent⟩ := ih (step_pending_nil stepped empty first) fun label member => by
      rw [step_absFiles stepped]
      exact later label member
    refine ⟨lastEmpty, List.forall_mem_cons.mpr ⟨?_, silent⟩⟩
    cases reloaded
    · rfl
    · exact absurd empty (step_reloaded stepped).2.2.1

/-- A call of `reloadFunc`, from a state with nothing pending, comes after a recorded event. -/
theorem recorded_before_reload {before after : List (Action × Bool)} {action : Action}
    (trace : Trace fw (before ++ (action, true) :: after) last) (empty : fw.pending = []) :
    ∃ label ∈ before, Records fw.absFiles label.1 := by
  obtain ⟨middle, left, right⟩ := trace.split
  by_contra unrecorded
  push_neg at unrecorded
  cases right with
  | cons stepped _ => exact (step_reloaded stepped).2.2.1 (left.idle empty unrecorded).1

/-- A path stays pending until a call of `reloadFunc` or `Stop`. -/
theorem pending_kept {path : String} (trace : Trace fw labels last) (member : path ∈ fw.pending)
    (kept : ∀ label ∈ labels, label.2 = false ∧ label.1 ≠ .stop) : path ∈ last.pending := by
  induction trace with
  | nil => exact member
  | cons stepped _ ih =>
    obtain ⟨⟨quiet, notStop⟩, later⟩ := List.forall_mem_cons.mp kept
    subst quiet
    exact ih (step_pending_subset stepped notStop member) later

/-- A run without a recorded event calls `reloadFunc` at most once. -/
theorem reloads_le_one (trace : Trace fw labels last)
    (unrecorded : ∀ label ∈ labels, ¬Records fw.absFiles label.1) :
    (labels.filter (·.2)).length ≤ 1 := by
  induction trace with
  | nil => simp
  | @cons fw next _ action reloaded rest stepped tail ih =>
    have later : ∀ label ∈ rest, ¬Records next.absFiles label.1 := by
      rw [step_absFiles stepped]
      exact (List.forall_mem_cons.mp unrecorded).2
    cases reloaded
    · simpa using ih later
    · have silent := (tail.idle (step_reloaded stepped).2.2.2 later).2
      have none : rest.filter (·.2) = [] :=
        List.filter_eq_nil_iff.mpr fun label member => by simp [silent label member]
      simp [none]

end Trace

/-- The invariant holds all along a run. -/
theorem Invariant.trace {fw last : FileWatcher} {labels : List (Action × Bool)}
    (invariant : Invariant fw) (trace : Trace fw labels last) : Invariant last := by
  induction trace with
  | nil => exact invariant
  | cons stepped _ ih => exact ih (invariant.step stepped)

/-- No timer can fire or run its callback any more: the run has come to rest. -/
def Quiescent (fw : FileWatcher) : Prop := ∀ state ∈ fw.timers, state = .stopped ∨ state = .done

instance : DecidablePred Quiescent := fun fw => by unfold Quiescent; infer_instance

namespace Invariant

variable {fw : FileWatcher} (invariant : Invariant fw)

include invariant

/-- While the watcher runs with changes pending, the timer armed last can still flush them. -/
theorem lastLive (running : fw.stopped = false) (pending : fw.pending ≠ []) :
    fw.timers.getLast? = some .armed ∨ fw.timers.getLast? = some .fired := by
  obtain ⟨index, current, live⟩ := invariant.pendingLive running pending
  have last : index = fw.timers.length - 1 := by
    have := invariant.timerLast index current
    omega
  rwa [List.getLast?_eq_getElem?, ← last]

/-- At rest, nothing is pending. -/
theorem pending_nil_of_quiescent (quiescent : Quiescent fw) : fw.pending = [] := by
  cases running : fw.stopped
  · by_contra pending
    obtain ⟨index, -, live⟩ := invariant.pendingLive running pending
    rcases live with live | live <;>
      rcases quiescent _ (List.getElem?_mem live) with resting | resting <;> cases resting
  · exact (invariant.stoppedClear running).1

end Invariant

/-! ## What every run keeps -/

/-- In every state a watcher reaches, `Stop` has left nothing pending and no timer, and while it
runs with changes pending the timer armed last has neither been stopped nor run its section. A run
that has come to rest has flushed, by a call of `reloadFunc`, or dropped, by `Stop`, each change it
recorded before `Stop`. -/
theorem pending_flushed_or_dropped (cwd : String) (files : List String)
    {labels : List (Action × Bool)} {last : FileWatcher} (trace : Trace (start cwd files) labels last) :
    (last.stopped = true → last.pending = [] ∧ last.timer = none) ∧
    (last.stopped = false → last.pending ≠ [] →
      last.timers.getLast? = some .armed ∨ last.timers.getLast? = some .fired) ∧
    (Quiescent last → ∀ before event after, labels = before ++ (.event event, false) :: after →
      Records (start cwd files).absFiles (.event event) → (∀ label ∈ before, label.1 ≠ .stop) →
      ∃ label ∈ after, label.2 = true ∨ label.1 = .stop) := by
  have invariant := (invariant_start cwd files).trace trace
  refine ⟨invariant.stoppedClear, invariant.lastLive, ?_⟩
  rintro quiescent before event after rfl recorded noStop
  obtain ⟨middle, left, right⟩ := trace.split
  cases right with
  | cons stepped rest =>
    by_contra never
    push_neg at never
    have running := left.running rfl noStop
    rw [← left.absFiles] at recorded
    have kept := rest.pending_kept (step_recorded recorded running stepped) fun label member =>
      ⟨by simpa using (never label member).1, (never label member).2⟩
    exact List.ne_nil_of_mem kept (invariant.pending_nil_of_quiescent quiescent)

/-- The state after one write to `/s.zed`, watched from `/`. -/
def written : FileWatcher := ⟨["/s.zed"], ["/s.zed"], some 0, [.armed], false, false⟩

theorem write_recorded : step (start "/" ["/s.zed"]) (.event ⟨"/s.zed", Op.Write⟩) = some (written, false) := by
  decide

/-- The state after a write to `/s.zed`, its timer firing and its callback flushing it. -/
def flushed : FileWatcher := ⟨["/s.zed"], [], some 0, [.done], false, false⟩

/-- A write, its timer firing, and its callback calling `reloadFunc`. -/
def writeFlushLabels : List (Action × Bool) :=
  [(.event ⟨"/s.zed", Op.Write⟩, false), (.fire 0, false), (.callback 0, true)]

/-- The state after a write to `/s.zed` and then `Stop`. -/
def dropped : FileWatcher := ⟨["/s.zed"], [], none, [.stopped], true, false⟩

/-- A write, then `Stop`. -/
def writeStopLabels : List (Action × Bool) := [(.event ⟨"/s.zed", Op.Write⟩, false), (.stop, false)]

/-- Both ends of a recorded write at rest: flushed by its callback, or dropped by `Stop`, where the
watcher is stopped with nothing pending and no timer. -/
theorem pending_flushed_or_dropped_after_write :
    (Trace (start "/" ["/s.zed"]) writeFlushLabels flushed ∧ Quiescent flushed ∧
      ((flushed.stopped = true → flushed.pending = [] ∧ flushed.timer = none) ∧
        (flushed.stopped = false → flushed.pending ≠ [] →
          flushed.timers.getLast? = some .armed ∨ flushed.timers.getLast? = some .fired) ∧
        (Quiescent flushed → ∀ before event after, writeFlushLabels = before ++ (.event event, false) :: after →
          Records (start "/" ["/s.zed"]).absFiles (.event event) → (∀ label ∈ before, label.1 ≠ .stop) →
          ∃ label ∈ after, label.2 = true ∨ label.1 = .stop))) ∧
    (Trace (start "/" ["/s.zed"]) writeStopLabels dropped ∧ Quiescent dropped ∧ dropped.stopped = true ∧
      ((dropped.stopped = true → dropped.pending = [] ∧ dropped.timer = none) ∧
        (dropped.stopped = false → dropped.pending ≠ [] →
          dropped.timers.getLast? = some .armed ∨ dropped.timers.getLast? = some .fired) ∧
        (Quiescent dropped → ∀ before event after, writeStopLabels = before ++ (.event event, false) :: after →
          Records (start "/" ["/s.zed"]).absFiles (.event event) → (∀ label ∈ before, label.1 ≠ .stop) →
          ∃ label ∈ after, label.2 = true ∨ label.1 = .stop))) :=
  have flushTrace : Trace (start "/" ["/s.zed"]) writeFlushLabels flushed :=
    .cons write_recorded (.cons (by decide : step written (.fire 0) = some (⟨["/s.zed"], ["/s.zed"],
      some 0, [.fired], false, false⟩, false)) (.cons (by decide) (.nil _)))
  have stopTrace : Trace (start "/" ["/s.zed"]) writeStopLabels dropped :=
    .cons write_recorded (.cons (by decide) (.nil _))
  ⟨⟨flushTrace, by decide, pending_flushed_or_dropped "/" ["/s.zed"] flushTrace⟩,
    ⟨stopTrace, by decide, rfl, pending_flushed_or_dropped "/" ["/s.zed"] stopTrace⟩⟩

/-- A write recorded just before `Stop` is never flushed: the run comes to rest at once, and no
continuation calls `reloadFunc`. -/
theorem stop_drops_recorded_change :
    Trace (start "/" ["/s.zed"]) [(.event ⟨"/s.zed", Op.Write⟩, false), (.stop, false)] dropped ∧
      Quiescent dropped ∧
      ∀ labels last, Trace dropped labels last → ∀ label ∈ labels, label.2 = false :=
  ⟨.cons write_recorded (.cons (by decide) (.nil _)), by decide,
    fun _ _ trace => trace.silent_of_stopped rfl⟩

/-- `reloadFunc` runs only in a callback's section that finds the watcher running with changes
pending, and empties them; only configured paths are ever pending. So a call of `reloadFunc`
follows a recorded event, since the start and since the previous call; events on other paths, and
`Remove`, `Rename` and `Chmod` events, change nothing; a stretch without recorded events holds at
most one call, whatever stale callbacks run in it; and no call follows `Stop`. -/
theorem reloads_follow_recorded_events (cwd : String) (files : List String) :
    (∀ fw action next, step fw action = some (next, true) →
      (∃ index, action = .callback index) ∧ fw.stopped = false ∧ fw.pending ≠ [] ∧
        next.pending = []) ∧
    (∀ labels last, Trace (start cwd files) labels last → ∀ path ∈ last.pending,
      path ∈ (start cwd files).absFiles) ∧
    (∀ fw event, event.name ∉ fw.absFiles ∨ qualifies event.op = false →
      step fw (.event event) = some (fw, false)) ∧
    (∀ remove rename chmod : Bool, qualifies ((if remove then Op.Remove else 0) |||
      (if rename then Op.Rename else 0) ||| (if chmod then Op.Chmod else 0)) = false) ∧
    (∀ before action after last, Trace (start cwd files) (before ++ (action, true) :: after) last →
      ∃ label ∈ before, Records (start cwd files).absFiles label.1) ∧
    (∀ before first between second after last, Trace (start cwd files)
        (before ++ (first, true) :: (between ++ (second, true) :: after)) last →
      ∃ label ∈ between, Records (start cwd files).absFiles label.1) ∧
    (∀ before stretch last, Trace (start cwd files) (before ++ stretch) last →
      (∀ label ∈ stretch, ¬Records (start cwd files).absFiles label.1) →
      (stretch.filter (·.2)).length ≤ 1) ∧
    (∀ before reloaded after last, Trace (start cwd files) (before ++ (.stop, reloaded) :: after) last →
      ∀ label ∈ after, label.2 = false) := by
  refine ⟨fun _ _ _ => step_reloaded, fun _ _ trace path member => ?_,
    fun _ _ => step_event_ignored, by decide, fun before action after last trace => ?_,
    fun before first between second after last trace => ?_,
    fun before stretch last trace unrecorded => ?_, fun before reloaded after last trace => ?_⟩
  · rw [← trace.absFiles]
    exact ((invariant_start cwd files).trace trace).pendingWatched path member
  · exact trace.recorded_before_reload rfl
  · obtain ⟨middle, left, right⟩ := trace.split
    cases right with
    | cons stepped rest =>
      rw [← left.absFiles, ← step_absFiles stepped]
      exact rest.recorded_before_reload (step_reloaded stepped).2.2.2
  · obtain ⟨middle, left, right⟩ := trace.split
    rw [← left.absFiles] at unrecorded
    exact right.reloads_le_one unrecorded
  · obtain ⟨middle, left, right⟩ := trace.split
    cases right with
    | cons stepped rest =>
      exact rest.silent_of_stopped (by simp [step_stopped stepped])

end EmbedSpiceDB.Watch
