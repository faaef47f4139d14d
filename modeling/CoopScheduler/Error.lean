/-!
# Errors

The ways in which a request to a scheduler can be refused. A caller that asks to be told gets
the error as a value; for every other caller it ends the program, with `message` as its last
words.
-/

namespace CoopScheduler

/-- Why a scheduler refused a request. Each error names the scheduler it came from. -/
inductive SchedulerError where
  /-- The platform could not create the execution context, for the reason `source`. -/
  | contextSpawn (name source : String)
  /-- The dispatch loop was started before. -/
  | alreadyStarted (name : String)
  /-- All `capacity` timer slots hold a task. -/
  | timerSlotsExhausted (name : String) (capacity : Nat)
  /-- All `capacity` event slots hold a task. -/
  | eventSlotsExhausted (name : String) (capacity : Nat)
  /-- A timer task that is in the queue was registered again. -/
  | timerAlreadyQueued (name : String)
deriving DecidableEq

namespace SchedulerError

/-- The error in words. -/
def message : SchedulerError → String
  | contextSpawn name source => s!"Unable to create thread {name}: {source}"
  | alreadyStarted name => s!"Thread {name} already started"
  | timerSlotsExhausted name capacity =>
    s!"Unable to create timer task on thread {name}: all {capacity} slots in use"
  | eventSlotsExhausted name capacity =>
    s!"Unable to create event task on thread {name}: all {capacity} slots in use"
  | timerAlreadyQueued name => s!"Task already registered on thread {name}"

/-- The text of the failure underneath, where there is one. -/
def source? : SchedulerError → Option String
  | contextSpawn _ source => some source
  | _ => none

end SchedulerError

end CoopScheduler
