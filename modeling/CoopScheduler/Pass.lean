import CoopScheduler.Scheduler

/-!
# Dispatch passes

A **pass** runs every pending event, oldest first; then, if no event has come in since, it
runs the first timer if that one is due, and otherwise parks until it is. A pass is not one
critical section but many, and between them anything may happen: a callback may call back into
the scheduler or even run a pass of its own, and other contexts go on with their work. So a
pass in progress is a value, its **activation**: `Scheduler.resume` goes from one activation to
the next and says what has to happen in between (`Effect`).

* Each step enters at most one critical section.
* The surroundings answer an effect by carrying it out and resuming the activation it names.
* Every pass dispatches a task, ends because an event is pending, or parks.
-/

namespace CoopScheduler

/-- How a pass ended. -/
inductive PassEnd where
  /-- It ran this timer. -/
  | fired (timer : TimerHandle)
  /-- An event came in after the others had run. -/
  | recheck
  /-- It parked for this long, or until it was woken. -/
  | parked (wait : Duration)
deriving DecidableEq

/-- What a pass did. -/
structure Pass where
  /-- How many events it dispatched. -/
  events : Nat
  /-- How it ended. -/
  ending : PassEnd
deriving DecidableEq

/-- A pass in progress, by what it does next; `events` counts the events so far. -/
inductive Activation (κ : Type) where
  /-- Take the next event. -/
  | drain (events : Nat)
  /-- Put back the event whose callback returned. -/
  | eventReturned (events : Nat) (key : Key) (callback : Option κ)
  /-- Decide about the timers at this clock reading. -/
  | evaluate (events : Nat) (now : Tick)
  /-- Read the clock, as the callback of a timer returned. -/
  | timerReturned (events : Nat) (key : Key) (callback : Option κ)
  /-- Put that timer back; the clock reading is `after`. -/
  | settle (events : Nat) (key : Key) (callback : Option κ) (after : Tick)
  /-- Note that the context is awake again. -/
  | woken (events : Nat) (wait : Duration)
  /-- Nothing; the pass is over. -/
  | ended (pass : Pass)

/-- What has to happen before a pass goes on with its `next` activation. -/
inductive Effect (κ : Type) where
  /-- Run a callback. -/
  | call (callback : κ) (next : Activation κ)
  /-- Read the clock. -/
  | read (next : Tick → Activation κ)
  /-- Drop a callback that lost its task, if there is one. -/
  | discard (callback : Option κ) (next : Activation κ)
  /-- Park the context. -/
  | park (wait : Duration) (next : Activation κ)
  /-- Nothing; the pass is over. -/
  | finish (pass : Pass)

namespace Activation

variable {κ : Type}

/-- A pass that has done nothing yet. -/
def start : Activation κ :=
  .drain 0

end Activation

namespace Effect

variable {κ : Type}

/-- Runs a callback, unless it is out being run already. -/
def callIfPresent (callback : Option κ) (next : Activation κ) : Effect κ :=
  match callback with
  | some callback => .call callback next
  | none => .discard none next

end Effect

namespace Scheduler

variable {κ : Type}

/-- One step of a pass: at most one critical section, and what has to happen next. -/
def resume (s : Scheduler κ) : Activation κ → Effect κ × Scheduler κ
  | .drain events =>
    match s.state.popEvent with
    | (none, state) => (.read (.evaluate events), { s with state := state })
    | (some (key, callback), state) =>
      (.callIfPresent callback (.eventReturned (events + 1) key callback),
        { s with state := state })
  | .eventReturned events key callback =>
    let (leftover, state) := s.state.finishEvent key callback
    (.discard leftover (.drain events), { s with state := state })
  | .evaluate events now =>
    match s.state.evaluate s.config now with
    | (.fire key callback, state) =>
      (.callIfPresent callback (.timerReturned events key callback), { s with state := state })
    | (.recheck, state) => (.finish ⟨events, .recheck⟩, { s with state := state })
    | (.park wait, state) => (.park wait (.woken events wait), { s with state := state })
  | .timerReturned events key callback => (.read (.settle events key callback), s)
  | .settle events key callback after =>
    let (leftover, state) := s.state.finishTimer key callback after
    (.discard leftover (.ended ⟨events, .fired ⟨s.id, key⟩⟩), { s with state := state })
  | .woken events wait =>
    (.finish ⟨events, .parked wait⟩, { s with state := s.state.awaken })
  | .ended pass => (.finish pass, s)

/-- What the log is told before a park. -/
def parkRecord (s : Scheduler κ) (wait : Duration) : LogRecord :=
  s.record .trace ("park " ++ wait.text)

end Scheduler

end CoopScheduler
