import CoopScheduler.Error
import CoopScheduler.LogRecord
import CoopScheduler.State.Dispatch
import CoopScheduler.Text.Quoted
import CoopScheduler.Text.ZeroByte

/-!
# Schedulers

A scheduler is its state together with an identity, a configuration and the two marks that
steer its dispatch loop. This module holds what can be asked of it without changing anything
and the life of its loop:

* A handle is of use only to the scheduler it came from (`Scheduler.owns`). To any other one
  it names nothing.
* The loop starts at most once (`Scheduler.start`, `Scheduler.startOnCaller`), and once it was
  told to stop it never runs another pass (`Scheduler.stop`).
* A context of its own needs a name that a thread can have (`Text.ZeroByte`). A loop that runs
  on the context of the caller does not.
-/

namespace CoopScheduler

/-- What comes of starting a dispatch loop. -/
inductive LoopStart where
  /-- The loop runs, and the log is told so. -/
  | running (record : LogRecord)
  /-- The loop was not started. -/
  | refused (error : SchedulerError)
  /-- The program ends with this message, whether or not the caller asked to be told errors. -/
  | broken (message : String)
deriving DecidableEq

/-- Runs timer and event tasks on one execution context; `κ` is the type of callbacks. -/
structure Scheduler (κ : Type) where
  /-- Tells it apart from other schedulers; every handle it gives carries this. -/
  id : SchedulerId
  /-- Its name and limits. -/
  config : Config
  /-- The tasks and queues. -/
  state : State κ
  /-- Whether the dispatch loop was started. -/
  started : Bool := false
  /-- Whether the dispatch loop was told to stop. -/
  shutdown : Bool := false

namespace Scheduler

variable {κ : Type}

/-- A scheduler on which nothing has happened yet. -/
def create (id : SchedulerId) (config : Config) : Scheduler κ :=
  { id, config, state := .ofConfig config }

/-- The name of the scheduler and of its context. -/
def name (s : Scheduler κ) : String :=
  s.config.name

/-- The scheduler in one line, for people. -/
def summary (s : Scheduler κ) : String :=
  "Scheduler \x7b id: SchedulerId(" ++ toString s.id.number ++ "), name: "
    ++ Text.Quoted.encode s.name ++ ", priority: " ++ toString s.config.priority ++ " \x7d"

/-- A record in the scheduler's own name. -/
def record (s : Scheduler κ) (level : LogLevel) (text : String) : LogRecord :=
  ⟨level, s.name ++ ": " ++ text⟩

/-- Whether a handle of this owner came from this scheduler. -/
def owns (s : Scheduler κ) (owner : SchedulerId) : Bool :=
  owner = s.id

/-! ### Questions -/

/-- Whether a timer task waits in the queue. -/
def isTimerQueued (s : Scheduler κ) (h : TimerHandle) : Bool :=
  s.owns h.owner && s.state.isTimerQueued h.key

/-- When a queued timer task is due. -/
def timerDeadline (s : Scheduler κ) (h : TimerHandle) : Option Tick :=
  if s.owns h.owner then s.state.timerDeadline h.key else none

/-- The queued timer tasks with their deadlines, the next one due in front. -/
def queuedTimers (s : Scheduler κ) : List (TimerHandle × Tick) :=
  s.state.timerQueue.entries.map fun c => (⟨s.id, c.key⟩, c.deadline)

/-- Whether the timer queue is in the order of its deadlines. -/
def timersInOrder (s : Scheduler κ) : Bool :=
  s.state.timerQueue.isSorted

/-- Whether an event task waits to run. -/
def isEventPending (s : Scheduler κ) (h : EventHandle) : Bool :=
  s.owns h.owner && s.state.isEventPending h.key

/-- The counters and the present numbers of tasks. -/
def stats (s : Scheduler κ) : Stats :=
  s.state.stats

/-- Whether the context is parked or about to park. -/
def isSleeping (s : Scheduler κ) : Bool :=
  s.state.sleeping

/-! ### The dispatch loop -/

/-- Starts the dispatch loop on a context of its own with `stack` bytes. If the platform
cannot create that context it says why in `failure?`, and the loop may be started again. The
platform is not even asked for a context whose name no thread can have. -/
def start (s : Scheduler κ) (stack : Nat) (failure? : Option String) : LoopStart × Scheduler κ :=
  if s.started then
    (.refused (.alreadyStarted s.name), s)
  else
    match Text.ZeroByte.fault? s.name, failure? with
    | some message, _ => (.broken message, { s with started := true })
    | none, some source => (.refused (.contextSpawn s.name source), s)
    | none, none =>
      (.running ⟨.info, "thread " ++ s.name ++ " started (priority "
          ++ toString s.config.priority ++ ", stack " ++ toString stack ++ " bytes)"⟩,
        { s with started := true })

/-- Starts the dispatch loop on the context of the caller. -/
def startOnCaller (s : Scheduler κ) : LoopStart × Scheduler κ :=
  if s.started then
    (.refused (.alreadyStarted s.name), s)
  else
    (.running ⟨.info, "thread " ++ s.name ++ " running on caller"⟩, { s with started := true })

/-- Tells the dispatch loop to end after the pass in progress. The caller then wakes the
context, so that a park in progress or the next one ends at once. -/
def stop (s : Scheduler κ) : Scheduler κ :=
  { s with shutdown := true }

/-- Whether the dispatch loop runs another pass. -/
def keepsRunning (s : Scheduler κ) : Bool :=
  !s.shutdown

/-- What the dispatch loop reports when it ends. -/
def stopRecord (s : Scheduler κ) : LogRecord :=
  ⟨.info, "thread " ++ s.name ++ " stopped"⟩

end Scheduler

end CoopScheduler
