import CoopScheduler.Config
import CoopScheduler.EventQueue
import CoopScheduler.Task
import CoopScheduler.TimerQueue

/-!
# The state of a scheduler

Everything the operations of one scheduler share: the tasks, the two queues, the flag that
says that the dispatching context sleeps, and the counters. Callers on any context reach the
state through **critical sections**, pure functions from a state to a state that the modules
below this one define:

* `CoopScheduler.State.Timers`: registering, moving and freeing timer tasks;
* `CoopScheduler.State.Events`: creating, sending and freeing event tasks;
* `CoopScheduler.State.Dispatch`: what a dispatch pass takes out of the state and puts back.

No section runs a callback, reads the clock or wakes a context. A section that finds the
context asleep and its sleep out of date says so (`State.wakeIf`), and the caller wakes the
context afterwards.
-/

namespace CoopScheduler

/-- What a scheduler counts. -/
structure Counters where
  /-- Event tasks taken off their queue to run. -/
  eventsDispatched : Nat := 0
  /-- Timer tasks taken off their queue to run. -/
  timersFired : Nat := 0
  /-- Passes that ended in a park. -/
  parks : Nat := 0
  /-- Times a sleeping context had to be woken. -/
  forcedWakes : Nat := 0
  /-- Passes cut short by an event that came late. -/
  rechecks : Nat := 0
deriving DecidableEq

/-- The counters together with the present numbers of tasks. -/
structure Stats extends Counters where
  /-- Timer tasks that exist. -/
  timerTasks : Nat
  /-- Countdowns in the timer queue. -/
  queuedTimers : Nat
  /-- Event tasks that exist. -/
  eventTasks : Nat
  /-- Event tasks that wait to run. -/
  pendingEvents : Nat
deriving DecidableEq

/-- What the operations of a scheduler share; `κ` is the type of callbacks. -/
structure State (κ : Type) where
  /-- The timer tasks. -/
  timers : Arena (TimerTask κ)
  /-- The event tasks. -/
  events : Arena (EventTask κ)
  /-- The countdowns of the queued timer tasks. -/
  timerQueue : TimerQueue
  /-- The event tasks that were sent and have not run yet. -/
  eventQueue : EventQueue
  /-- Whether the dispatching context is parked or about to park. -/
  sleeping : Bool
  /-- The counters. -/
  counters : Counters

namespace State

variable {κ : Type}

/-- The state of a scheduler on which nothing has happened yet. -/
def ofConfig (c : Config) : State κ where
  timers := { capacity := c.maxTimerTasks }
  events := { capacity := c.maxEventTasks }
  timerQueue := {}
  eventQueue := { capacity := c.maxEventTasks }
  sleeping := false
  counters := {}

/-- The counters and the present numbers of tasks. -/
def stats (s : State κ) : Stats :=
  { s.counters with
    timerTasks := s.timers.size
    queuedTimers := s.timerQueue.length
    eventTasks := s.events.size
    pendingEvents := s.eventQueue.length }

/-- Asks for a wake if there is `cause` for one and the context sleeps; every wake asked for
is counted. -/
def wakeIf (s : State κ) (cause : Bool) : Bool × State κ :=
  if cause && s.sleeping then
    (true, { s with counters.forcedWakes := s.counters.forcedWakes + 1 })
  else
    (false, s)

/-- A wake is asked for exactly when there is cause and the context sleeps. -/
@[simp]
theorem wakeIf_fst (s : State κ) (cause : Bool) :
    (s.wakeIf cause).1 = (cause && s.sleeping) := by
  unfold wakeIf
  split <;> simp_all

end State

end CoopScheduler
