import CoopScheduler.Scheduler

/-!
# Requests to a scheduler

Every request runs the same way: the clock is read if the request needs a reading, one
critical section does the work, and what is left to do comes after the section, in this
order: a callback that lost its task is dropped, the request is reported to the log, the
context is woken if it sleeps past what it should, and the caller gets a reply. The **outcome**
of a request lists these.

* `Scheduler.readsClock` tells which requests take a reading: those that start a countdown.
* `Scheduler.perform` is the critical section with its outcome.
* A request with a handle of another scheduler does nothing at all, and one with a stale
  handle changes nothing.
-/

namespace CoopScheduler

/-- From where a context is woken. -/
inductive WakeSource where
  | thread
  | interrupt
deriving DecidableEq

/-- A request that may change a scheduler. -/
inductive Operation (κ : Type) where
  /-- Create a timer task that is due one period from now. -/
  | addTimer (callback : κ) (period : Period) (autoRepeat : Bool)
  /-- Start the countdown of a timer task anew with another period. -/
  | reschedule (timer : TimerHandle) (period : Period)
  /-- Take a timer task off the queue. -/
  | removeTimer (timer : TimerHandle)
  /-- Start the countdown of a timer task that is not queued. -/
  | rearm (timer : TimerHandle)
  /-- Free a timer task. -/
  | releaseTimer (timer : TimerHandle)
  /-- Create an event task. -/
  | createEvent (callback : κ)
  /-- Have an event task run. -/
  | send (event : EventHandle) (source : WakeSource)
  /-- Free an event task. -/
  | releaseEvent (event : EventHandle)

/-- What the caller of a request is told. -/
inductive Reply where
  /-- There is nothing to tell. -/
  | done
  /-- The timer task that was created. -/
  | timer (handle : TimerHandle)
  /-- The event task that was created. -/
  | event (handle : EventHandle)
  /-- The request was refused. -/
  | refused (error : SchedulerError)
  /-- The arena of tasks was found broken. -/
  | corrupt
deriving DecidableEq

/-- What is left to do after the critical section of a request, in the order of the fields. -/
structure Outcome (κ : Type) where
  /-- The callback that lost its task. -/
  dropped? : Option κ := none
  /-- What the log is told about the request. -/
  record? : Option LogRecord := none
  /-- From where the sleeping context is woken, if it has to be. -/
  wake? : Option WakeSource := none
  /-- What the caller is told. -/
  reply : Reply := .done

namespace Scheduler

variable {κ : Type}

/-- Whether a request takes a clock reading before its critical section. -/
def readsClock (s : Scheduler κ) : Operation κ → Bool
  | .addTimer .. => true
  | .reschedule h _ => s.owns h.owner
  | .rearm h => s.owns h.owner
  | _ => false

/-- A wake from a thread, if it is asked for. -/
def threadWake (wake : Bool) : Option WakeSource :=
  if wake then some .thread else none

/-- Creates a timer task. -/
def addTimer (s : Scheduler κ) (callback : κ) (period : Period) (autoRepeat : Bool)
    (now : Tick) : Outcome κ × Scheduler κ :=
  match s.state.addTimer callback period autoRepeat now with
  | .ok (key, wake, state) =>
    let handle : TimerHandle := ⟨s.id, key⟩
    let line := "add " ++ handle.text ++ " period " ++ period.text ++ " repeat "
      ++ toString autoRepeat
    ({ record? := s.record .debug line, wake? := threadWake wake, reply := .timer handle },
      { s with state := state })
  | .error (.full task) =>
    ({ dropped? := task.callback
       reply := .refused (.timerSlotsExhausted s.name s.config.maxTimerTasks) }, s)
  | .error (.corrupt task) => ({ dropped? := task.callback, reply := .corrupt }, s)

/-- Starts the countdown of a timer task anew with another period. -/
def reschedule (s : Scheduler κ) (h : TimerHandle) (period : Period) (now : Tick) :
    Outcome κ × Scheduler κ :=
  if s.owns h.owner then
    match s.state.rescheduleTimer h.key period now with
    | none => ({}, s)
    | some (wake, state) =>
      let line := "reschedule " ++ h.text ++ " period " ++ period.text
      ({ record? := s.record .debug line, wake? := threadWake wake }, { s with state := state })
  else
    ({}, s)

/-- Takes a timer task off the queue. -/
def removeTimer (s : Scheduler κ) (h : TimerHandle) : Outcome κ × Scheduler κ :=
  if s.owns h.owner then ({}, { s with state := s.state.removeTimer h.key }) else ({}, s)

/-- Starts the countdown of a timer task that is not queued. -/
def rearm (s : Scheduler κ) (h : TimerHandle) (now : Tick) : Outcome κ × Scheduler κ :=
  if s.owns h.owner then
    match s.state.rearmTimer h.key now with
    | none => ({ reply := .refused (.timerAlreadyQueued s.name) }, s)
    | some (wake, state) => ({ wake? := threadWake wake }, { s with state := state })
  else
    ({}, s)

/-- Frees a timer task. -/
def releaseTimer (s : Scheduler κ) (h : TimerHandle) : Outcome κ × Scheduler κ :=
  if s.owns h.owner then
    let (callback, state) := s.state.releaseTimer h.key
    ({ dropped? := callback }, { s with state := state })
  else
    ({}, s)

/-- Creates an event task. -/
def createEvent (s : Scheduler κ) (callback : κ) : Outcome κ × Scheduler κ :=
  match s.state.createEvent callback with
  | .ok (key, state) => ({ reply := .event ⟨s.id, key⟩ }, { s with state := state })
  | .error (.full task) =>
    ({ dropped? := task.callback
       reply := .refused (.eventSlotsExhausted s.name s.config.maxEventTasks) }, s)
  | .error (.corrupt task) => ({ dropped? := task.callback, reply := .corrupt }, s)

/-- Has an event task run. -/
def send (s : Scheduler κ) (h : EventHandle) (source : WakeSource) : Outcome κ × Scheduler κ :=
  if s.owns h.owner then
    let (wake, state) := s.state.sendEvent h.key
    ({ wake? := if wake then some source else none }, { s with state := state })
  else
    ({}, s)

/-- Frees an event task. -/
def releaseEvent (s : Scheduler κ) (h : EventHandle) : Outcome κ × Scheduler κ :=
  if s.owns h.owner then
    let (callback, state) := s.state.releaseEvent h.key
    ({ dropped? := callback }, { s with state := state })
  else
    ({}, s)

/-- The critical section of a request and its outcome. The reading `now` matters only to a
request that takes one. -/
def perform (s : Scheduler κ) (op : Operation κ) (now : Tick) : Outcome κ × Scheduler κ :=
  match op with
  | .addTimer callback period autoRepeat => s.addTimer callback period autoRepeat now
  | .reschedule h period => s.reschedule h period now
  | .removeTimer h => s.removeTimer h
  | .rearm h => s.rearm h now
  | .releaseTimer h => s.releaseTimer h
  | .createEvent callback => s.createEvent callback
  | .send h source => s.send h source
  | .releaseEvent h => s.releaseEvent h

/-- What the log is told when the context is woken. Interrupts write no log. -/
def wakeRecord? (s : Scheduler κ) : WakeSource → Option LogRecord
  | .thread => some (s.record .trace "force-wake")
  | .interrupt => none

end Scheduler

end CoopScheduler
