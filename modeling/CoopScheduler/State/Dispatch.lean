import CoopScheduler.State.Events
import CoopScheduler.State.Timers

/-!
# Critical sections of a dispatch pass

A pass takes tasks out of the state, one at a time, and puts each back when its callback has
returned.

* `popEvent` takes the oldest pending event; `finishEvent` puts it back.
* `evaluate` decides how the pass goes on once no event was left: it **fires** the first
  timer if that one is due, **parks** for the time left if it is not, and has the pass end for
  a **recheck** if an event has come in meanwhile. Only a park sets the sleeping flag.
* `finishTimer` puts a timer back where its callback left it: a callback that moved, removed or
  freed its own task has decided already, and any other task that repeats begins a new
  countdown.

A task may be taken again while its callback is out. It then counts as dispatched, but there
is no callback to run.
-/

namespace CoopScheduler

/-- How a pass goes on after its events. -/
inductive Decision (κ : Type) where
  /-- Run this timer, with the callback its slot held. -/
  | fire (key : Key) (callback : Option κ)
  /-- End the pass, as an event is pending. -/
  | recheck
  /-- Park for this long. -/
  | park (wait : Duration)

namespace State

variable {κ : Type}

/-! ### Events -/

/-- Marks an event task as running and takes its callback out. -/
def startEvent (s : State κ) (key : Key) : State κ :=
  { s with
    events := s.events.modify key fun t =>
      { t with callback := none, queued := false, running := true }
    counters.eventsDispatched := s.counters.eventsDispatched + 1 }

/-- Takes the first task of `pending` that still exists; the ones behind it stay pending. -/
def popEventFrom (s : State κ) : List Key → Option (Key × Option κ) × State κ
  | [] => (none, { s with eventQueue.pending := [] })
  | key :: rest =>
    match s.events.get? key with
    | none => popEventFrom s rest
    | some task => (some (key, task.callback), startEvent { s with eventQueue.pending := rest } key)

/-- Takes the oldest pending event off its queue, with the callback it held. -/
def popEvent (s : State κ) : Option (Key × Option κ) × State κ :=
  s.popEventFrom s.eventQueue.pending

/-- Puts an event back after its run, or frees it if it was released meanwhile. A callback
that has no place to go is returned. -/
def finishEvent (s : State κ) (key : Key) (callback : Option κ) : Option κ × State κ :=
  match s.events.get? key with
  | none => (callback, s)
  | some task =>
    let ended := { s with events := s.events.modify key fun t => { t with running := false } }
    if task.released then
      (callback, { ended with events := (ended.events.remove key).2 })
    else
      (none, { ended with
        events := ended.events.modify key fun t => { t with callback := callback } })

/-! ### Timers -/

/-- Marks a timer task as running and takes its callback out. -/
def startTimer (s : State κ) (key : Key) : State κ :=
  { s with
    timers := s.timers.modify key fun t =>
      { t with callback := none, phase := .running, rearm := t.autoRepeat }
    counters.timersFired := s.counters.timersFired + 1 }

/-- Takes the first of the countdowns that are due if its task still exists; the ones behind
it stay queued. A countdown that is not due ends the search. -/
def popTimerFrom (s : State κ) (now : Tick) :
    List Countdown → Option (Key × Option κ) × State κ
  | [] => (none, { s with timerQueue := ⟨[]⟩ })
  | head :: rest =>
    if 0 < head.remaining now then
      (none, { s with timerQueue := ⟨head :: rest⟩ })
    else
      match s.timers.get? head.key with
      | none => popTimerFrom s now rest
      | some task =>
        (some (head.key, task.callback), startTimer { s with timerQueue := ⟨rest⟩ } head.key)

/-- Takes the first timer off the queue if it is due at the reading `now`, with the callback
it held. -/
def popTimer (s : State κ) (now : Tick) : Option (Key × Option κ) × State κ :=
  s.popTimerFrom now s.timerQueue.entries

/-- Begins the countdown of a repeating task anew, or leaves the task inert. -/
def settleTimer (s : State κ) (key : Key) (task : TimerTask κ) (after : Tick) : State κ :=
  match task.rearm, task.period with
  | true, .after micros =>
    queueTimer { s with timers := s.timers.modify key fun t => { t with origin := after } }
      key after micros
  | _, _ => { s with timers := s.timers.modify key fun t => { t with phase := .inert } }

/-- Puts a timer back after its run, or frees it if it was released meanwhile. A callback that
has no place to go is returned. The reading `after` was taken when the callback had
returned. -/
def finishTimer (s : State κ) (key : Key) (callback : Option κ) (after : Tick) :
    Option κ × State κ :=
  match s.timers.get? key with
  | none => (callback, s)
  | some task =>
    if task.released then
      (callback, { s with timers := (s.timers.remove key).2 })
    else
      let returned := { s with
        timers := s.timers.modify key fun t => { t with callback := callback } }
      let settled :=
        if task.phase = .running then returned.settleTimer key task after else returned
      (none, { settled with
        timers := settled.timers.modify key fun t => { t with rearm := false } })

/-! ### The decision -/

/-- Decides how a pass goes on, at the clock reading `now`. -/
def evaluate (s : State κ) (c : Config) (now : Tick) : Decision κ × State κ :=
  if s.eventQueue.isEmpty then
    match s.popTimer now with
    | (some (key, callback), s) => (.fire key callback, s)
    | (none, s) =>
      (.park (c.sleepFor (s.timerQueue.remaining? now)),
        { s with sleeping := true, counters.parks := s.counters.parks + 1 })
  else
    (.recheck, { s with counters.rechecks := s.counters.rechecks + 1 })

/-- The context has woken up. -/
def awaken (s : State κ) : State κ :=
  { s with sleeping := false }

end State

end CoopScheduler
