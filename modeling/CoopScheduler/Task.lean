import CoopScheduler.Arena
import CoopScheduler.Period
import CoopScheduler.Tick

/-!
# Tasks and handles

A scheduler runs two kinds of tasks. A **timer task** runs when its countdown is over, an
**event task** when it is sent. A task keeps its callback, of any type `κ`, except while the
callback is out being run. Tasks live in arenas of their scheduler; the world outside holds
**handles**, a key together with the scheduler it belongs to.
-/

namespace CoopScheduler

/-! ### Handles -/

/-- Tells schedulers apart. -/
structure SchedulerId where
  /-- Its number. -/
  number : Nat
deriving DecidableEq

/-- Addresses a timer task of one scheduler. -/
structure TimerHandle where
  /-- The scheduler the task belongs to. -/
  owner : SchedulerId
  /-- Where the task is stored. -/
  key : Key
deriving DecidableEq

/-- Addresses an event task of one scheduler. -/
structure EventHandle where
  /-- The scheduler the task belongs to. -/
  owner : SchedulerId
  /-- Where the task is stored. -/
  key : Key
deriving DecidableEq

/-- A timer handle is written `timer#INDEX.GENERATION@OWNER`. -/
def TimerHandle.text (h : TimerHandle) : String :=
  s!"timer#{h.key.index}.{h.key.generation.toNat}@{h.owner.number}"

/-- An event handle is written `event#INDEX.GENERATION@OWNER`. -/
def EventHandle.text (h : EventHandle) : String :=
  s!"event#{h.key.index}.{h.key.generation.toNat}@{h.owner.number}"

/-! ### Timer tasks -/

/-- Where a timer task is in its life. -/
inductive TimerPhase where
  /-- It waits for nothing. -/
  | inert
  /-- Its countdown is in the timer queue. -/
  | queued
  /-- It was taken off the queue to run its callback. -/
  | running
deriving DecidableEq

/-- A task that runs when its countdown is over. -/
structure TimerTask (κ : Type) where
  /-- What to run; absent while it is out being run. -/
  callback : Option κ
  /-- How long a countdown takes. -/
  period : Period
  /-- Whether a new countdown begins after each run. -/
  autoRepeat : Bool
  /-- When the current countdown began. -/
  origin : Tick
  /-- Where the task is in its life. -/
  phase : TimerPhase := .inert
  /-- Whether the run in progress will be followed by a new countdown. -/
  rearm : Bool := false
  /-- Whether the slot is to be freed after the run in progress. -/
  released : Bool := false

/-- When the current countdown is over. -/
def TimerTask.deadline {κ : Type} (t : TimerTask κ) : Option Tick :=
  t.period.micros?.map t.origin.advance

/-! ### Event tasks -/

/-- A task that runs when it is sent. -/
structure EventTask (κ : Type) where
  /-- What to run; absent while it is out being run. -/
  callback : Option κ
  /-- Whether the task waits in the event queue. -/
  queued : Bool := false
  /-- Whether a run is in progress. -/
  running : Bool := false
  /-- Whether the slot is to be freed after the run in progress. -/
  released : Bool := false

end CoopScheduler
