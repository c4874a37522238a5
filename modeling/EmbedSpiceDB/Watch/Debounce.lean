import Mathlib.Data.List.Chain
import EmbedSpiceDB.Watch.Watcher

/-! # The debounce against a clock

`handleFileChange` arms `time.AfterFunc(fw.debounce, …)`, and the runtime runs that callback no
earlier than `fw.debounce` after the call; `timer.Stop()` keeps a timer that has not fired from
ever firing. The timed watcher runs the steps of `Watch.step` against a clock: a timer gets the
time it was armed, it fires only once `debounce` has passed since, and time passes by `wait` steps
at any moment. Erasing the `wait` steps of a timed run leaves a run of `Watch.step`.

Two facts carry the debounce. No timer fires early. A timer that had not fired when a later one
was armed less than `debounce` after it was stopped by that arming, and stays stopped. So the
callback that calls `reloadFunc` belongs to a timer whose arming was followed by `debounce` with
no recorded event, and a burst of events less than `debounce` apart reloads once, no earlier than
`debounce` after its last event.
-/

namespace EmbedSpiceDB.Watch

open FileWatcher

/-- A watcher with the clock and the time each of its timers was armed. -/
structure Timed where
  fw : FileWatcher
  now : Nat
  /-- When each timer of `fw.timers` was armed, in the same order. -/
  armedAt : List Nat
deriving DecidableEq, Repr

/-- A step of the watcher or of the runtime, or time passing. -/
inductive TimedAction where
  | step (action : Action)
  | wait (elapsed : Nat)
deriving DecidableEq, Repr

/-- `watchLoop` hands the event to `handleFileChange`: it names a configured file and has the
`Write` or `Create` bit. -/
def TimedAction.records (absFiles : List String) : TimedAction → Bool
  | .step (.event event) => decide (event.name ∈ absFiles) && qualifies event.op
  | _ => false

namespace Timed

/-- `NewFileWatcher` and a successful `Start` at time `now`. -/
def start (cwd : String) (files : List String) (now : Nat) : Timed := ⟨FileWatcher.start cwd files, now, []⟩

/-- `time.AfterFunc` fires no earlier than its delay. -/
def due (debounce : Nat) (s : Timed) : Action → Bool
  | .fire index => (s.armedAt[index]?).any fun armed => decide (armed + debounce ≤ s.now)
  | _ => true

/-- One step, with whether it called `reloadFunc`: a watcher step that is due, the timers it arms
stamped with the current time, or time passing. -/
def step (debounce : Nat) (s : Timed) : TimedAction → Option (Timed × Bool)
  | .step action =>
    if s.due debounce action then
      (Watch.step s.fw action).map fun (fw, reloaded) =>
        (⟨fw, s.now, s.armedAt ++ List.replicate (fw.timers.length - s.fw.timers.length) s.now⟩,
          reloaded)
    else none
  | .wait elapsed => some ({ s with now := s.now + elapsed }, false)

end Timed

/-- A timed run, each step labelled with its action, the time it was taken, and whether it called
`reloadFunc`. -/
inductive TimedTrace (debounce : Nat) : Timed → List (TimedAction × Nat × Bool) → Timed → Prop
  | nil (s : Timed) : TimedTrace debounce s [] s
  | cons {s next last : Timed} {action : TimedAction} {reloaded : Bool}
      {labels : List (TimedAction × Nat × Bool)} :
      Timed.step debounce s action = some (next, reloaded) → TimedTrace debounce next labels last →
      TimedTrace debounce s ((action, s.now, reloaded) :: labels) last

/-- Runs a schedule of timed actions, with the labels of its steps; `none` when one of them cannot
happen. -/
def runTimed (debounce : Nat) (s : Timed) :
    List TimedAction → Option (List (TimedAction × Nat × Bool) × Timed)
  | [] => some ([], s)
  | action :: rest => do
    let (next, reloaded) ← s.step debounce action
    let (labels, last) ← runTimed debounce next rest
    pure ((action, s.now, reloaded) :: labels, last)

theorem TimedTrace.of_runTimed {debounce : Nat} {s last : Timed} {actions : List TimedAction}
    {labels : List (TimedAction × Nat × Bool)} (ran : runTimed debounce s actions = some (labels, last)) :
    TimedTrace debounce s labels last := by
  induction actions generalizing s labels with
  | nil => cases ran; exact .nil _
  | cons action rest ih =>
    simp only [runTimed, Option.bind_eq_bind, Option.bind_eq_some, Option.pure_def,
      Option.some.injEq, Prod.exists] at ran
    obtain ⟨next, reloaded, stepped, labels, last', ran, same⟩ := ran
    cases same
    exact .cons stepped (ih ran)

/-- The times of the recorded events of a run, in order. -/
def recordedTimes (absFiles : List String) (labels : List (TimedAction × Nat × Bool)) : List Nat :=
  labels.filterMap fun (action, time, _) => if action.records absFiles then some time else none

/-- The times of the calls of `reloadFunc` in a run, in order. -/
def reloadTimes (labels : List (TimedAction × Nat × Bool)) : List Nat :=
  labels.filterMap fun (_, time, reloaded) => if reloaded then some time else none

/-- The untimed run under a timed one: its watcher steps, without the `wait` steps. -/
def untimed (labels : List (TimedAction × Nat × Bool)) : List (Action × Bool) :=
  labels.filterMap fun
    | (.step action, _, reloaded) => some (action, reloaded)
    | (.wait _, _, _) => none

/-! ## What a watcher step does to its timers -/

namespace FileWatcher

theorem stopCurrent_getElem?_of_ne {fw : FileWatcher} {index : Nat} (other : fw.timer ≠ some index) :
    fw.stopCurrent[index]? = fw.timers[index]? := by
  unfold stopCurrent stopTimer
  split
  · rename_i current moved
    split
    · exact List.getElem?_set_ne fun same => other (by rwa [← same])
    · rfl
  · rfl

theorem stopCurrent_getElem?_current {fw : FileWatcher} {index : Nat} (current : fw.timer = some index)
    (armed : fw.timers[index]? = some .armed) : fw.stopCurrent[index]? = some .stopped := by
  have bound : index < fw.timers.length := (List.getElem?_eq_some_iff.mp armed).1
  simp [stopCurrent, stopTimer, current, armed, List.getElem?_set_self bound]

/-- `timer.Stop()` changes no timer that is not armed. -/
theorem stopCurrent_getElem?_of_not_armed {fw : FileWatcher} {index : Nat}
    (notArmed : fw.timers[index]? ≠ some .armed) : fw.stopCurrent[index]? = fw.timers[index]? := by
  by_cases current : fw.timer = some index
  · simp [stopCurrent, stopTimer, current, notArmed]
  · exact stopCurrent_getElem?_of_ne current

end FileWatcher

/-- Only the current timer is armed. -/
def ArmedCurrent (fw : FileWatcher) : Prop :=
  ∀ index, fw.timers[index]? = some .armed → fw.timer = some index

/-- With only the current timer armed, `timer.Stop()` leaves no timer armed. -/
theorem ArmedCurrent.stopCurrent {fw : FileWatcher} (armedCurrent : ArmedCurrent fw) (index : Nat) :
    fw.stopCurrent[index]? ≠ some .armed := by
  by_cases armed : fw.timers[index]? = some .armed
  · rw [stopCurrent_getElem?_current (armedCurrent index armed) armed]
    simp
  · rwa [stopCurrent_getElem?_of_not_armed armed]

section Step

variable {fw next : FileWatcher} {action : Action} {reloaded : Bool}

/-- What a step can do to one timer: nothing; `timer.Stop()` on the current one while armed; fire
it; run its callback; or arm it as the new current timer, for a recorded event on a running
watcher. -/
theorem step_timer (stepped : step fw action = some (next, reloaded)) (index : Nat) :
    next.timers[index]? = fw.timers[index]? ∨
    (fw.timer = some index ∧ fw.timers[index]? = some .armed ∧ next.timers[index]? = some .stopped) ∨
    (action = .fire index ∧ fw.timers[index]? = some .armed ∧
      (next.timers[index]? = some .fired ∨ next.timers[index]? = some .done)) ∨
    (action = .callback index ∧ fw.timers[index]? = some .fired ∧ next.timers[index]? = some .done) ∨
    (Records fw.absFiles action ∧ fw.stopped = false ∧ index = fw.timers.length ∧
      next.timers[index]? = some .armed ∧ next.timer = some index) := by
  have stopped : fw.stopCurrent[index]? = fw.timers[index]? ∨
      (fw.timer = some index ∧ fw.timers[index]? = some .armed ∧
        fw.stopCurrent[index]? = some .stopped) := by
    by_cases armed : fw.timers[index]? = some .armed
    · by_cases current : fw.timer = some index
      · exact .inr ⟨current, armed, stopCurrent_getElem?_current current armed⟩
      · exact .inl (stopCurrent_getElem?_of_ne current)
    · exact .inl (stopCurrent_getElem?_of_not_armed armed)
  rcases step_cases stepped with ⟨event, rfl, -, rfl⟩ | ⟨other, rfl, -, armed, rfl⟩ |
    ⟨other, rfl, fired, flushed⟩ | ⟨rfl, -, rfl⟩ | ⟨rfl, -, -, rfl⟩
  · -- an event
    split
    · rename_i recorded
      simp only [Bool.and_eq_true, isWatchedFile, decide_eq_true_eq] at recorded
      unfold handleFileChange
      split
      · exact .inl rfl
      · rename_i running
        rcases Nat.lt_trichotomy index fw.timers.length with before | rfl | after
        · rw [List.getElem?_append_left (by simpa using before)]
          exact stopped.imp_right .inl
        · refine .inr (.inr (.inr (.inr ⟨recorded, by simpa using running, rfl, ?_, ?_⟩)))
          · simp [List.getElem?_append_right]
          · simp
        · left
          rw [List.getElem?_eq_none (by simpa using after), List.getElem?_eq_none (by omega)]
    · exact .inl rfl
  · -- a timer fires
    by_cases same : other = index
    · subst same
      have bound : other < fw.timers.length := (List.getElem?_eq_some_iff.mp armed).1
      exact .inr (.inr (.inl ⟨rfl, armed, by split <;> simp [List.getElem?_set_self bound]⟩))
    · exact .inl (List.getElem?_set_ne same)
  · -- a callback's section
    have timers : next.timers = fw.timers.set other .done := by
      rcases flush_cases flushed with ⟨-, rfl, -⟩ | ⟨-, -, -, rfl⟩ <;> rfl
    rw [timers]
    by_cases same : other = index
    · subst same
      have bound : other < fw.timers.length := (List.getElem?_eq_some_iff.mp fired).1
      exact .inr (.inr (.inr (.inl ⟨rfl, fired, List.getElem?_set_self bound⟩)))
    · exact .inl (List.getElem?_set_ne same)
  · -- the section of `Stop`
    exact stopped.imp_right .inl
  · -- `fw.cancel()`
    exact .inl rfl

/-- A stopped timer stays stopped, and a timer whose callback returned stays so. -/
theorem step_getElem?_final {index : Nat} {state : TimerState} (final : state = .stopped ∨ state = .done)
    (stepped : step fw action = some (next, reloaded)) (current : fw.timers[index]? = some state) :
    next.timers[index]? = some state := by
  have bound : index < fw.timers.length := (List.getElem?_eq_some_iff.mp current).1
  rcases step_timer stepped index with same | ⟨-, armed, -⟩ | ⟨-, armed, -⟩ | ⟨-, fired, -⟩ |
    ⟨-, -, rfl, -⟩
  · rwa [same]
  all_goals first
    | omega
    | (rw [current] at armed; rcases final with rfl | rfl <;> cases armed)
    | (rw [current] at fired; rcases final with rfl | rfl <;> cases fired)

/-- Every step keeps only the current timer armed. -/
theorem ArmedCurrent.step (armedCurrent : ArmedCurrent fw)
    (stepped : step fw action = some (next, reloaded)) : ArmedCurrent next := by
  intro index armed
  rcases step_cases stepped with ⟨event, -, -, rfl⟩ | ⟨other, -, -, -, rfl⟩ |
    ⟨other, -, -, flushed⟩ | ⟨-, -, rfl⟩ | ⟨-, -, -, rfl⟩
  · -- an event
    by_cases recorded : (fw.isWatchedFile event.name && qualifies event.op) = true
    · by_cases running : fw.stopped = true
      · simp only [recorded, if_true, handleFileChange, running] at armed ⊢
        exact armedCurrent index armed
      · simp only [recorded, if_true, handleFileChange, running, Bool.false_eq_true, if_false] at armed ⊢
        rcases Nat.lt_or_ge index fw.timers.length with before | after
        · rw [List.getElem?_append_left (by simpa using before)] at armed
          exact absurd armed (armedCurrent.stopCurrent index)
        · have bound := (List.getElem?_eq_some_iff.mp armed).1
          simp only [List.length_append, length_stopCurrent, List.length_singleton] at bound
          simp only [Option.some.injEq, length_stopCurrent]
          omega
    · simp only [recorded, Bool.false_eq_true, if_false] at armed ⊢
      exact armedCurrent index armed
  · -- a timer fires
    by_cases same : other = index
    · subst same
      have notArmed : (if fw.cancelled then TimerState.done else .fired) ≠ .armed := by split <;> simp
      simp [List.getElem?_set, notArmed] at armed
    · exact armedCurrent index (by rwa [List.getElem?_set_ne same] at armed)
  · -- a callback's section
    have kept : next.timer = fw.timer ∧ next.timers = fw.timers.set other .done := by
      rcases flush_cases flushed with ⟨-, rfl, -⟩ | ⟨-, -, -, rfl⟩ <;> exact ⟨rfl, rfl⟩
    rw [kept.2] at armed
    rw [kept.1]
    by_cases same : other = index
    · subst same
      simp [List.getElem?_set] at armed
    · exact armedCurrent index (by rwa [List.getElem?_set_ne same] at armed)
  · -- the section of `Stop`
    exact absurd armed (armedCurrent.stopCurrent index)
  · -- `fw.cancel()`
    exact armedCurrent index armed

/-- A callback's section runs on a fired timer and leaves it done. -/
theorem step_callback {index : Nat} (stepped : step fw (.callback index) = some (next, reloaded)) :
    fw.timers[index]? = some .fired ∧ next.timers = fw.timers.set index .done := by
  simp only [step] at stepped
  split at stepped
  · refine ⟨‹_›, ?_⟩
    rcases flush_cases (Option.some.inj stepped).symm with ⟨-, rfl, -⟩ | ⟨-, -, -, rfl⟩ <;> rfl
  · cases stepped

/-- A step adds a timer exactly for an event that `watchLoop` hands to `handleFileChange` while the
watcher runs. -/
theorem step_length (stepped : step fw action = some (next, reloaded)) :
    next.timers.length =
      fw.timers.length + if (TimedAction.step action).records fw.absFiles && !fw.stopped then 1 else 0 := by
  rcases step_cases stepped with ⟨event, rfl, -, rfl⟩ | ⟨other, rfl, -, -, rfl⟩ |
    ⟨other, rfl, -, flushed⟩ | ⟨rfl, -, rfl⟩ | ⟨rfl, -, -, rfl⟩
  · by_cases recorded : (decide (event.name ∈ fw.absFiles) && qualifies event.op) = true
    · by_cases running : fw.stopped = true <;>
        simp [TimedAction.records, isWatchedFile, recorded, running, handleFileChange]
    · simp only [Bool.not_eq_true] at recorded
      simp [TimedAction.records, isWatchedFile, recorded]
  · simp [TimedAction.records]
  · rcases flush_cases flushed with ⟨-, rfl, -⟩ | ⟨-, -, -, rfl⟩ <;> simp [TimedAction.records]
  · simp [TimedAction.records, stopLocked]
  · simp [TimedAction.records]

end Step

/-! ## Timed steps -/

namespace Timed

variable {debounce : Nat} {s next : Timed} {action : TimedAction} {reloaded : Bool}

/-- What a timed step can do: a watcher step that is due, at the same time, stamping the timers it
arms with that time; or time passing. -/
theorem step_cases (stepped : s.step debounce action = some (next, reloaded)) :
    (∃ watcherAction, action = .step watcherAction ∧ s.due debounce watcherAction = true ∧
      Watch.step s.fw watcherAction = some (next.fw, reloaded) ∧ next.now = s.now ∧
      next.armedAt = s.armedAt ++ List.replicate (next.fw.timers.length - s.fw.timers.length) s.now) ∨
    (∃ elapsed, action = .wait elapsed ∧ reloaded = false ∧ next = { s with now := s.now + elapsed }) := by
  cases action with
  | step watcherAction =>
    obtain ⟨due, moved⟩ := Option.ite_none_right_eq_some.mp stepped
    obtain ⟨⟨fw, moved⟩, watcherStep, ⟨⟩⟩ := Option.map_eq_some'.mp moved
    exact .inl ⟨watcherAction, rfl, due, watcherStep, rfl, rfl⟩
  | wait elapsed =>
    cases stepped
    exact .inr ⟨elapsed, rfl, rfl, rfl⟩

end Timed

/-! ## The timed invariant -/

/-- What holds in every state a timed watcher reaches. -/
structure TimedInvariant (debounce : Nat) (s : Timed) : Prop where
  armedCurrent : ArmedCurrent s.fw
  /-- Each timer has the time it was armed. -/
  stamped : s.armedAt.length = s.fw.timers.length
  /-- No timer fires early. -/
  notEarly : ∀ index armed : Nat, s.armedAt[index]? = some armed →
    (s.fw.timers[index]? = some .fired ∨ s.fw.timers[index]? = some .done) → armed + debounce ≤ s.now
  /-- A timer that had not fired when a later one was armed less than `debounce` after it was
  stopped then. -/
  superseded : ∀ earlier later armed armed' : Nat, earlier < later → s.armedAt[earlier]? = some armed →
    s.armedAt[later]? = some armed' → armed' < armed + debounce → s.fw.timers[earlier]? = some .stopped

theorem timedInvariant_start (debounce : Nat) (cwd : String) (files : List String) (now : Nat) :
    TimedInvariant debounce (Timed.start cwd files now) :=
  ⟨fun _ armed => by simp [Timed.start, FileWatcher.start] at armed, rfl, by simp [Timed.start],
    by simp [Timed.start]⟩

/-- A timer a step stamps is stamped with the current time. -/
private theorem getElem?_stamp {armedAt : List Nat} {count now index armed : Nat}
    (stamped : (armedAt ++ List.replicate count now)[index]? = some armed) :
    (index < armedAt.length ∧ armedAt[index]? = some armed) ∨ (armedAt.length ≤ index ∧ armed = now) := by
  rcases Nat.lt_or_ge index armedAt.length with before | after
  · exact .inl ⟨before, by rwa [List.getElem?_append_left before] at stamped⟩
  · rw [List.getElem?_append_right after, List.getElem?_replicate] at stamped
    split at stamped
    · exact .inr ⟨after, (Option.some.inj stamped).symm⟩
    · cases stamped

section StampedStep

variable {debounce : Nat} {s : Timed} {action : Action} {fw : FileWatcher} {reloaded : Bool}

/-- A due watcher step fires no timer before `debounce` has passed since it was armed. -/
private theorem TimedInvariant.notEarly_step (invariant : TimedInvariant debounce s)
    (due : s.due debounce action = true) (moved : Watch.step s.fw action = some (fw, reloaded))
    (index armed : Nat)
    (found : (s.armedAt ++ List.replicate (fw.timers.length - s.fw.timers.length) s.now)[index]? = some armed)
    (fired : fw.timers[index]? = some .fired ∨ fw.timers[index]? = some .done) : armed + debounce ≤ s.now := by
  have stamped := invariant.stamped
  have before {state : TimerState} (earlier : s.fw.timers[index]? = some state) :
      s.armedAt[index]? = some armed := by
    rwa [List.getElem?_append_left (by rw [invariant.stamped]; exact (List.getElem?_eq_some_iff.mp earlier).1)]
      at found
  rcases step_timer moved index with same | ⟨-, -, stoppedNow⟩ | ⟨rfl, armedBefore, -⟩ |
    ⟨-, firedBefore, -⟩ | ⟨-, -, -, armedNow, -⟩
  · -- the timer is as it was
    rw [same] at fired
    obtain ⟨state, earlier⟩ : ∃ state, s.fw.timers[index]? = some state := fired.elim (⟨_, ·⟩) (⟨_, ·⟩)
    exact invariant.notEarly index armed (before earlier) fired
  · rcases fired with fired | fired <;> simp [stoppedNow] at fired
  · -- the step fires it: it is due
    rcases getElem?_stamp found with ⟨-, found⟩ | ⟨after, -⟩
    · simpa [Timed.due, found] using due
    · exact absurd (List.getElem?_eq_some_iff.mp armedBefore).1 (by omega)
  · exact invariant.notEarly index armed (before firedBefore) (.inl firedBefore)
  · rcases fired with fired | fired <;> simp [armedNow] at fired

/-- A watcher step stops every timer armed less than `debounce` before one it arms. -/
private theorem TimedInvariant.superseded_step (invariant : TimedInvariant debounce s)
    (moved : Watch.step s.fw action = some (fw, reloaded)) (earlier later armed armed' : Nat)
    (ordered : earlier < later)
    (first : (s.armedAt ++ List.replicate (fw.timers.length - s.fw.timers.length) s.now)[earlier]? = some armed)
    (second : (s.armedAt ++ List.replicate (fw.timers.length - s.fw.timers.length) s.now)[later]? = some armed')
    (close : armed' < armed + debounce) : fw.timers[earlier]? = some .stopped := by
  have stamped := invariant.stamped
  have grown : s.fw.timers.length ≤ fw.timers.length ∧ fw.timers.length ≤ s.fw.timers.length + 1 := by
    rw [step_length moved]; split <;> omega
  have laterBound : later < fw.timers.length := by
    have := (List.getElem?_eq_some_iff.mp second).1
    simp only [List.length_append, List.length_replicate] at this
    omega
  rcases getElem?_stamp second with ⟨-, second⟩ | ⟨laterAfter, rfl⟩
  · -- both timers were armed before the step
    rcases getElem?_stamp first with ⟨-, first⟩ | ⟨earlierAfter, -⟩
    · exact step_getElem?_final (.inl rfl) moved
        (invariant.superseded earlier later armed _ ordered first second close)
    · omega
  -- the step armed `later` as the current timer
  rcases getElem?_stamp first with ⟨earlierBound, first⟩ | ⟨earlierAfter, -⟩
  · have current : fw.timer = some later ∧ Records s.fw.absFiles action := by
      rcases step_timer moved later with same | ⟨-, armed, -⟩ | ⟨-, armed, -⟩ | ⟨-, armed, -⟩ |
        ⟨recorded, -, -, -, current⟩
      · rw [List.getElem?_eq_none (by omega : s.fw.timers.length ≤ later)] at same
        exact absurd (List.getElem?_eq_none_iff.mp same) (by omega)
      all_goals first
        | exact ⟨current, recorded⟩
        | exact absurd (List.getElem?_eq_some_iff.mp armed).1 (by omega)
    obtain ⟨state, found⟩ : ∃ state, s.fw.timers[earlier]? = some state :=
      ⟨_, List.getElem?_eq_getElem (by omega)⟩
    rcases step_timer moved earlier with same | ⟨-, -, stopped⟩ | ⟨rfl, -, -⟩ | ⟨rfl, -, -⟩ |
      ⟨-, -, rfl, -⟩
    · rw [same, found]
      cases state with
      | stopped => rfl
      | armed =>
        have := (invariant.armedCurrent.step moved) earlier (by rw [same, found])
        rw [current.1] at this
        cases this
        omega
      | fired => exact absurd (invariant.notEarly earlier armed first (.inl found)) (by omega)
      | done => exact absurd (invariant.notEarly earlier armed first (.inr found)) (by omega)
    · exact stopped
    · exact absurd current.2 (by simp [Records])
    · exact absurd current.2 (by simp [Records])
    · omega
  · omega

end StampedStep

/-- Every timed step keeps the invariant. -/
theorem TimedInvariant.step {debounce : Nat} {s next : Timed} {action : TimedAction} {reloaded : Bool}
    (invariant : TimedInvariant debounce s) (stepped : s.step debounce action = some (next, reloaded)) :
    TimedInvariant debounce next := by
  rcases Timed.step_cases stepped with
    ⟨watcherAction, rfl, due, moved, now, armedAt⟩ | ⟨elapsed, rfl, -, rfl⟩
  · refine ⟨invariant.armedCurrent.step moved, ?_, ?_, ?_⟩
    · rw [armedAt, List.length_append, List.length_replicate, invariant.stamped, step_length moved]
      omega
    · rw [now, armedAt]
      exact invariant.notEarly_step due moved
    · rw [armedAt]
      exact invariant.superseded_step moved
  · -- time passes
    refine ⟨invariant.armedCurrent, invariant.stamped, fun index armed found fired => ?_,
      invariant.superseded⟩
    exact (invariant.notEarly index armed found fired).trans (Nat.le_add_right _ _)

/-- The invariant holds all along a timed run. -/
theorem TimedInvariant.trace {debounce : Nat} {s last : Timed} {labels : List (TimedAction × Nat × Bool)}
    (invariant : TimedInvariant debounce s) (trace : TimedTrace debounce s labels last) :
    TimedInvariant debounce last := by
  induction trace with
  | nil => exact invariant
  | cons stepped _ ih => exact ih (invariant.step stepped)

/-- A call of `reloadFunc` is made by the callback of a timer armed at least `debounce` before, and
that callback returns. -/
theorem TimedInvariant.reload {debounce : Nat} {s next : Timed} {action : TimedAction}
    (invariant : TimedInvariant debounce s) (stepped : s.step debounce action = some (next, true)) :
    ∃ index armed : Nat, next.armedAt[index]? = some armed ∧ armed + debounce ≤ s.now ∧
      next.fw.timers[index]? = some .done := by
  rcases Timed.step_cases stepped with ⟨watcherAction, rfl, -, moved, -, armedAt⟩ | ⟨_, -, quiet, -⟩
  · obtain ⟨⟨index, rfl⟩, -⟩ := step_reloaded moved
    obtain ⟨fired, timers⟩ := step_callback moved
    have bound : index < s.armedAt.length := by
      rw [invariant.stamped]; exact (List.getElem?_eq_some_iff.mp fired).1
    obtain ⟨armed, found⟩ : ∃ armed, s.armedAt[index]? = some armed :=
      ⟨_, List.getElem?_eq_getElem bound⟩
    refine ⟨index, armed, by rw [armedAt, List.getElem?_append_left bound, found],
      invariant.notEarly index armed found (.inl fired), ?_⟩
    rw [timers, List.getElem?_set_self (by rwa [← invariant.stamped])]
  · cases quiet

/-- A stopped timer stays stopped along a run, and a timer whose callback returned stays so. -/
theorem Trace.getElem?_final {fw last : FileWatcher} {labels : List (Action × Bool)} {index : Nat}
    {state : TimerState} (final : state = .stopped ∨ state = .done) (trace : Trace fw labels last)
    (current : fw.timers[index]? = some state) : last.timers[index]? = some state := by
  induction trace with
  | nil => exact current
  | cons stepped _ ih => exact ih (step_getElem?_final final stepped current)

/-! ## Timed runs -/

namespace TimedTrace

variable {debounce : Nat} {s last : Timed} {labels : List (TimedAction × Nat × Bool)}

/-- Erasing the `wait` steps of a timed run leaves a run of the watcher. -/
theorem toTrace (trace : TimedTrace debounce s labels last) : Trace s.fw (untimed labels) last.fw := by
  induction trace with
  | nil => exact .nil _
  | cons stepped _ ih =>
    rcases Timed.step_cases stepped with ⟨_, rfl, -, moved, -, -⟩ | ⟨_, rfl, rfl, rfl⟩
    · exact .cons moved ih
    · exact ih

/-- Stamps are only ever added. -/
theorem armedAt_append (trace : TimedTrace debounce s labels last) :
    ∃ extra, last.armedAt = s.armedAt ++ extra := by
  induction trace with
  | nil => exact ⟨[], by simp⟩
  | cons stepped _ ih =>
    obtain ⟨extra, grown⟩ := ih
    rcases Timed.step_cases stepped with ⟨_, -, -, -, -, armedAt⟩ | ⟨_, -, -, rfl⟩
    · exact ⟨List.replicate _ _ ++ extra, by rw [grown, armedAt, List.append_assoc]⟩
    · exact ⟨extra, grown⟩

/-- Without `Stop`, the stamps a run adds are the times of its recorded events. -/
theorem armedAt_recorded (trace : TimedTrace debounce s labels last) (running : s.fw.stopped = false)
    (noStop : ∀ label ∈ labels, label.1 ≠ .step .stop) :
    last.armedAt = s.armedAt ++ recordedTimes s.fw.absFiles labels := by
  induction trace with
  | nil => simp [recordedTimes]
  | @cons s next _ action reloaded rest stepped _ ih =>
    obtain ⟨first, later⟩ := List.forall_mem_cons.mp noStop
    rcases Timed.step_cases stepped with ⟨watcherAction, rfl, -, moved, -, armedAt⟩ | ⟨_, rfl, -, rfl⟩
    · have notStop : watcherAction ≠ .stop := fun same => first (by rw [same])
      have stillRunning : next.fw.stopped = false := by simp [step_stopped moved, running, notStop]
      rw [ih stillRunning later, armedAt, step_absFiles moved, step_length moved, running]
      simp only [recordedTimes, List.filterMap_cons, Bool.not_false, Bool.and_true]
      split <;> simp
    · rw [ih running later]
      simp [recordedTimes, TimedAction.records]

/-- Every call of `reloadFunc` in a run is made by the callback of a timer armed at least
`debounce` before it, and that callback has returned at the end of the run. -/
theorem reloads (trace : TimedTrace debounce s labels last) (invariant : TimedInvariant debounce s) :
    ∀ label ∈ labels, label.2.2 = true → ∃ index armed : Nat, last.armedAt[index]? = some armed ∧
      armed + debounce ≤ label.2.1 ∧ last.fw.timers[index]? = some .done := by
  induction trace with
  | nil => simp
  | @cons s next _ action reloaded rest stepped tail ih =>
    intro label member reloads
    rcases List.mem_cons.mp member with rfl | later
    · subst reloads
      obtain ⟨index, armed, found, early, done⟩ := invariant.reload stepped
      obtain ⟨extra, grown⟩ := tail.armedAt_append
      refine ⟨index, armed, ?_, early, tail.toTrace.getElem?_final (.inr rfl) done⟩
      rw [grown, List.getElem?_append_left (List.getElem?_eq_some_iff.mp found).1, found]
    · exact ih (invariant.step stepped) label later reloads

theorem split {first second : List (TimedAction × Nat × Bool)}
    (trace : TimedTrace debounce s (first ++ second) last) :
    ∃ middle, TimedTrace debounce s first middle ∧ TimedTrace debounce middle second last := by
  induction first generalizing s with
  | nil => exact ⟨s, .nil s, trace⟩
  | cons label rest ih =>
    cases trace with
    | cons stepped tail =>
      obtain ⟨middle, left, right⟩ := ih tail
      exact ⟨middle, .cons stepped left, right⟩

/-- From a started watcher, a run without `Stop` stamps its timers with the times of its recorded
events. -/
theorem armedAt_of_start {cwd : String} {files : List String} {now : Nat}
    (trace : TimedTrace debounce (Timed.start cwd files now) labels last)
    (noStop : ∀ label ∈ labels, label.1 ≠ .step .stop) :
    last.armedAt = recordedTimes (start cwd files).absFiles labels :=
  trace.armedAt_recorded rfl noStop

/-- Every call of `reloadFunc` in a run is made by the callback of a timer armed at least
`debounce` before it, and no timer was armed in the `debounce` after it. -/
theorem reloads_quiet (trace : TimedTrace debounce s labels last) (invariant : TimedInvariant debounce s) :
    ∀ label ∈ labels, label.2.2 = true → ∃ index armed : Nat, last.armedAt[index]? = some armed ∧
      armed + debounce ≤ label.2.1 ∧
      ∀ later armed' : Nat, index < later → last.armedAt[later]? = some armed' → armed + debounce ≤ armed' := by
  intro label member reloads
  obtain ⟨index, armed, found, early, done⟩ := trace.reloads invariant label member reloads
  refine ⟨index, armed, found, early, fun later armed' after found' => ?_⟩
  by_contra close
  have stopped := (invariant.trace trace).superseded index later armed armed' after found found' (by omega)
  rw [done] at stopped
  cases stopped

end TimedTrace

theorem mem_untimed {labels : List (TimedAction × Nat × Bool)} {action : Action} {reloaded : Bool} :
    (action, reloaded) ∈ untimed labels ↔ ∃ time, (.step action, time, reloaded) ∈ labels := by
  simp only [untimed, List.mem_filterMap]
  constructor
  · rintro ⟨⟨_ | _, time, _⟩, member, found⟩ <;> simp at found
    obtain ⟨rfl, rfl⟩ := found
    exact ⟨time, member⟩
  · rintro ⟨time, member⟩
    exact ⟨_, member, rfl⟩

/-- Without `Stop`, a timed run stays running. -/
theorem TimedTrace.running {debounce : Nat} {s last : Timed} {labels : List (TimedAction × Nat × Bool)}
    (trace : TimedTrace debounce s labels last) (running : s.fw.stopped = false)
    (noStop : ∀ label ∈ labels, label.1 ≠ .step .stop) : last.fw.stopped = false :=
  trace.toTrace.running running fun label member => by
    obtain ⟨time, member⟩ := mem_untimed.mp member
    exact fun stop => noStop _ member (by rw [stop])

theorem mem_reloadTimes {labels : List (TimedAction × Nat × Bool)} {time : Nat} :
    time ∈ reloadTimes labels ↔ ∃ label ∈ labels, label.2.2 = true ∧ label.2.1 = time := by
  simp [reloadTimes]

/-! ## The debounce -/

/-- The debounce, against the clock. From a started watcher, over any interleaving without `Stop`
of events, timer firings, callbacks and time passing, each call of `reloadFunc` comes from a
recorded event at least `debounce` before it, and every event recorded after that one came at
least `debounce` after it. -/
theorem reloads_after_quiet_window {cwd : String} {files : List String} {now debounce : Nat}
    {labels : List (TimedAction × Nat × Bool)} {last : Timed}
    (trace : TimedTrace debounce (Timed.start cwd files now) labels last)
    (noStop : ∀ label ∈ labels, label.1 ≠ .step .stop) :
    ∀ time ∈ reloadTimes labels, ∃ front armed back,
      recordedTimes (start cwd files).absFiles labels = front ++ armed :: back ∧
      armed + debounce ≤ time ∧ ∀ later ∈ back, armed + debounce ≤ later := by
  intro time reload
  obtain ⟨label, member, reloads, rfl⟩ := mem_reloadTimes.mp reload
  obtain ⟨index, armed, found, early, quiet⟩ :=
    trace.reloads_quiet (timedInvariant_start debounce cwd files now) label member reloads
  rw [trace.armedAt_of_start noStop] at found quiet
  obtain ⟨bound, rfl⟩ := List.getElem?_eq_some_iff.mp found
  refine ⟨_, _, _, by rw [← List.drop_eq_getElem_cons bound, List.take_append_drop index], early,
    fun later member => ?_⟩
  obtain ⟨offset, found'⟩ := List.mem_iff_getElem?.mp member
  rw [List.getElem?_drop] at found'
  exact quiet _ later (by omega) found'

/-- Two writes to `/s.zed` three apart under a debounce of five, then the timer of the second
fires and its callback runs. -/
def burstLabels : List (TimedAction × Nat × Bool) :=
  [(.step (.event ⟨"/s.zed", Op.Write⟩), 0, false), (.wait 3, 0, false),
    (.step (.event ⟨"/s.zed", Op.Write⟩), 3, false), (.wait 5, 3, false), (.step (.fire 1), 8, false),
    (.step (.callback 1), 8, true)]

/-- The first timer was stopped by the second write; the second has run its callback. -/
def burstLast : Timed := ⟨⟨["/s.zed"], [], some 1, [.stopped, .done], false, false⟩, 8, [0, 3]⟩

theorem burst_trace : TimedTrace 5 (Timed.start "/" ["/s.zed"] 0) burstLabels burstLast :=
  TimedTrace.of_runTimed (by decide : runTimed 5 (Timed.start "/" ["/s.zed"] 0) (burstLabels.map (·.1)) =
    some (burstLabels, burstLast))

theorem reload_after_second_write :
    (∀ label ∈ burstLabels, label.1 ≠ .step .stop) ∧
      ∀ time ∈ reloadTimes burstLabels, ∃ front armed back,
        recordedTimes (start "/" ["/s.zed"]).absFiles burstLabels = front ++ armed :: back ∧
        armed + 5 ≤ time ∧ ∀ later ∈ back, armed + 5 ≤ later :=
  ⟨by decide, reloads_after_quiet_window burst_trace (by decide)⟩

/-- No timer is stamped later than now. -/
theorem TimedTrace.armedAt_le_now {debounce : Nat} {s last : Timed}
    {labels : List (TimedAction × Nat × Bool)} (trace : TimedTrace debounce s labels last)
    (stamped : ∀ armed ∈ s.armedAt, armed ≤ s.now) : ∀ armed ∈ last.armedAt, armed ≤ last.now := by
  induction trace with
  | nil => exact stamped
  | cons stepped _ ih =>
    apply ih
    intro armed member
    rcases Timed.step_cases stepped with ⟨_, rfl, -, -, now, armedAt⟩ | ⟨_, rfl, -, rfl⟩
    · rw [armedAt, List.mem_append] at member
      rw [now]
      rcases member with before | stampedNow
      · exact stamped armed before
      · exact (List.eq_of_mem_replicate stampedNow).le
    · exact (stamped armed member).trans (Nat.le_add_right _ _)

section Completes

variable {debounce : Nat} {s : Timed} {index : Nat}

/-- The callback of a fired timer, on a running watcher with changes pending, flushes them with one
call of `reloadFunc`. -/
theorem Timed.step_callback_flushes (running : s.fw.stopped = false) (pending : s.fw.pending ≠ [])
    (fired : s.fw.timers[index]? = some .fired) :
    s.step debounce (.step (.callback index)) =
      some (⟨{ s.fw with timers := s.fw.timers.set index .done, pending := [] }, s.now, s.armedAt⟩,
        true) := by
  simp [Timed.step, Timed.due, Watch.step, fired, flush, running, pending]

/-- A due armed timer of a watcher whose context is live fires. -/
theorem Timed.step_fire (live : s.fw.cancelled = false) (armedNow : s.fw.timers[index]? = some .armed)
    {armed : Nat} (stamp : s.armedAt[index]? = some armed) (due : armed + debounce ≤ s.now) :
    s.step debounce (.step (.fire index)) =
      some (⟨{ s.fw with timers := s.fw.timers.set index .fired }, s.now, s.armedAt⟩, false) := by
  simp [Timed.step, Timed.due, Watch.step, armedNow, stamp, due, live]

end Completes

/-- The debounce always completes. In every state a timed run reaches from `Start`, a running
watcher with changes pending has a run that waits out the delay of its current timer, lets that
timer fire and runs its callback: one call of `reloadFunc`, no later than `debounce` after now,
flushes every pending path and leaves the watcher running. -/
theorem pending_flushed_within_debounce {cwd : String} {files : List String} {started debounce : Nat}
    {before : List (TimedAction × Nat × Bool)} {s : Timed}
    (trace : TimedTrace debounce (Timed.start cwd files started) before s)
    (running : s.fw.stopped = false) (pending : s.fw.pending ≠ []) :
    ∃ labels last, TimedTrace debounce s labels last ∧ reloadTimes labels = [last.now] ∧
      last.now ≤ s.now + debounce ∧ last.fw.pending = [] ∧ last.fw.stopped = false := by
  have timed := (timedInvariant_start debounce cwd files started).trace trace
  have invariant := (invariant_start cwd files).trace trace.toTrace
  have live : s.fw.cancelled = false := by
    cases cancelled : s.fw.cancelled
    · rfl
    · rw [invariant.cancelledStopped cancelled] at running; cases running
  obtain ⟨index, -, current⟩ := invariant.pendingLive running pending
  have bound : index < s.armedAt.length := by
    rw [timed.stamped]; rcases current with found | found <;> exact (List.getElem?_eq_some_iff.mp found).1
  obtain ⟨armed, stamp⟩ : ∃ armed, s.armedAt[index]? = some armed := ⟨_, List.getElem?_eq_getElem bound⟩
  have early : armed ≤ s.now :=
    trace.armedAt_le_now (by simp [Timed.start]) armed (List.mem_iff_getElem?.mpr ⟨index, stamp⟩)
  rcases current with armedNow | firedNow
  · -- wait until the current timer is due, let it fire, and run its callback
    let waited : Timed := { s with now := s.now + (armed + debounce - s.now) }
    let firing : Timed := ⟨{ s.fw with timers := s.fw.timers.set index .fired }, waited.now, s.armedAt⟩
    have waits : s.step debounce (.wait (armed + debounce - s.now)) = some (waited, false) := rfl
    have fires : waited.step debounce (.step (.fire index)) = some (firing, false) :=
      Timed.step_fire live armedNow stamp (by simp only [waited]; omega)
    have flushes : firing.step debounce (.step (.callback index)) = some (_, true) :=
      Timed.step_callback_flushes running pending
        (by simp [firing, List.getElem?_set_self (by rwa [← timed.stamped] : index < s.fw.timers.length)])
    refine ⟨_, _, .cons waits (.cons fires (.cons flushes (.nil _))), by simp [reloadTimes],
      by simp only [firing, waited]; omega, rfl, running⟩
  · -- the current timer has fired: run its callback
    exact ⟨_, _, .cons (Timed.step_callback_flushes running pending firedNow) (.nil _),
      by simp [reloadTimes], Nat.le_add_right _ _, rfl, running⟩

/-- The burst up to its second write: the first timer stopped, the second armed at 3. -/
def burstWritten : Timed := ⟨⟨["/s.zed"], ["/s.zed"], some 1, [.stopped, .armed], false, false⟩, 3, [0, 3]⟩

theorem second_write_flushed_by_eight :
    TimedTrace 5 (Timed.start "/" ["/s.zed"] 0) (burstLabels.take 3) burstWritten ∧
      burstWritten.fw.stopped = false ∧ burstWritten.fw.pending ≠ [] ∧
      ∃ labels last, TimedTrace 5 burstWritten labels last ∧ reloadTimes labels = [last.now] ∧
        last.now ≤ burstWritten.now + 5 ∧ last.fw.pending = [] ∧ last.fw.stopped = false :=
  have written : TimedTrace 5 (Timed.start "/" ["/s.zed"] 0) (burstLabels.take 3) burstWritten :=
    TimedTrace.of_runTimed (by decide : runTimed 5 (Timed.start "/" ["/s.zed"] 0)
      ((burstLabels.take 3).map (·.1)) = some (burstLabels.take 3, burstWritten))
  ⟨written, rfl, by decide, pending_flushed_within_debounce written rfl (by decide)⟩

end EmbedSpiceDB.Watch
