import CoopScheduler.Pass
import CoopScheduler.Scheduler.Operation

/-!
# Scripts

What callbacks, parkers and the world outside do in a simulation is written down beforehand,
as **scripts**: lists of commands, each to one of the schedulers of the simulation, which are
numbered from zero. Tasks have names, and scripts address a task by its name. Every command
has an **answer**.
-/

namespace CoopScheduler

namespace Simulation

/-- What a command does to its scheduler. A list of numbered verbs inside is a script. -/
inductive Verb where
  /-- Create a timer task. Each of its runs follows the script `always` and then the next one
  of `turns`; with `attempt` the command tells an error, without it an error is fatal. -/
  | addTimer (name : String) (period : Period) (autoRepeat attempt : Bool)
      (always : List (Nat × Verb)) (turns : List (List (Nat × Verb)))
  /-- Create an event task, likewise. -/
  | createEvent (name : String) (attempt : Bool)
      (always : List (Nat × Verb)) (turns : List (List (Nat × Verb)))
  | reschedule (timer : String) (period : Period)
  | removeTimer (timer : String)
  | rearm (timer : String) (attempt : Bool)
  | releaseTimer (timer : String)
  | isTimerQueued (timer : String)
  | timerDeadline (timer : String)
  | timerHandle (timer : String)
  | send (event : String) (source : WakeSource)
  | releaseEvent (event : String)
  | isEventPending (event : String)
  | eventHandle (event : String)
  /-- Run one pass. -/
  | pass
  /-- Run some passes, one after the other. -/
  | passes (count : Nat)
  | setClock (micros : UInt32)
  | advanceClock (micros : UInt32)
  /-- Read the clock through the scheduler. -/
  | now
  | stats
  | queuedTimers
  | timersInOrder
  | isSleeping
  | info
  /-- Have a script run right after a later clock reading, `skip` readings after the first one
  that is left to it. -/
  | onRead (skip : Nat) (script : List (Nat × Verb))
  /-- Have a script run during a later park. -/
  | onPark (script : List (Nat × Verb))
  /-- Run the dispatch loop on the caller; the parker stops it at park `maxParks`. -/
  | run (maxParks : Nat)
  /-- Run the dispatch loop on a context of its own, likewise. -/
  | start (maxParks stack : Nat) (attempt : Bool)
  | stop

/-- A verb with the number of the scheduler it is for. -/
abbrev Command := Nat × Verb

/-- Commands that are carried out one after the other. -/
abbrev Script := List Command

/-- What a command comes to. -/
inductive Answer where
  | nothing
  | flag (value : Bool)
  | text (value : String)
  | tick? (value : Option Tick)
  /-- A handle, its owner, and whether that is the scheduler the command was for. -/
  | handle (text : String) (owner : SchedulerId) (owned : Bool)
  | pass (value : Pass)
  | passes (value : List Pass)
  | stats (value : Stats)
  | timers (value : List (TimerHandle × Tick))
  /-- A scheduler's identity, name, priority and summary. -/
  | info (id : SchedulerId) (name : String) (priority : Nat) (summary : String)
  | refused (error : SchedulerError)
  /-- No task of that name was created. -/
  | unbound

end Simulation

end CoopScheduler
