import CoopScheduler.Duration

/-!
# Configuration

Name and limits of one scheduler and of the execution context it dispatches on. Two of the
limits shape every park:

* a park that waits for a timer lasts at least `Config.sleepFloor`, so that timers with
  nearly equal deadlines cannot turn the dispatch loop into a spin;
* a park without a timer lasts `Config.idleSleep`, which is never below the floor either.
-/

namespace CoopScheduler

/-- Name and limits of a scheduler. -/
structure Config where
  /-- Names the execution context, in log records and in errors. -/
  name : String := "hal-sched"
  /-- A hint for the platform; the scheduler only reports it. -/
  priority : Nat := 0
  /-- Bytes of stack for the execution context. -/
  stackSize : Nat := 65536
  /-- The shortest park while a timer is queued. -/
  sleepFloor : Duration := .ofMicros 400
  /-- How long to park when no timer is queued. -/
  maxSleep : Duration := .ofSeconds 1
  /-- How many timer tasks may exist at once. -/
  maxTimerTasks : Nat := 64
  /-- How many event tasks may exist at once. -/
  maxEventTasks : Nat := 32
deriving DecidableEq

namespace Config

/-- The park taken when no timer is queued. -/
def idleSleep (c : Config) : Duration :=
  max c.maxSleep c.sleepFloor

/-- The park taken when the earliest timer is `micros` away. -/
def timedSleep (c : Config) (micros : UInt32) : Duration :=
  max (.ofMicros micros.toNat) c.sleepFloor

/-- The park taken when `remaining?` microseconds are left until the earliest timer, if there
is one. -/
def sleepFor (c : Config) (remaining? : Option UInt32) : Duration :=
  match remaining? with
  | none => c.idleSleep
  | some micros => c.timedSleep micros

/-- No park is shorter than the floor. -/
theorem sleepFloor_le_sleepFor (c : Config) (remaining? : Option UInt32) :
    c.sleepFloor ≤ c.sleepFor remaining? := by
  cases remaining? <;> exact Nat.le_max_right _ _

end Config

end CoopScheduler
