import CoopScheduler.State

/-!
# Critical sections on timer tasks

The sections behind the requests about timer tasks. Each takes the key of a task and, if it
starts a countdown, the clock reading `now` that was taken before the section was entered.
With a stale key a section changes nothing.

* `addTimer` stores a task and starts its countdown, unless its period is `never`.
* `removeTimer` takes a task off the queue. A task that is running is not queued again after
  its run.
* `rescheduleTimer` and `rearmTimer` start a new countdown in place of whatever the task was
  waiting for, the first with a new period, the second with the old one. Only `rearmTimer`
  refuses a task that is queued.
* `releaseTimer` frees a task, at once or after the run in progress.
-/

namespace CoopScheduler

namespace State

variable {κ : Type}

/-- Puts the countdown of a task into the queue. -/
def queueTimer (s : State κ) (key : Key) (origin : Tick) (period : UInt32) : State κ :=
  { s with
    timers := s.timers.modify key fun t => { t with phase := .queued }
    timerQueue := s.timerQueue.insert ⟨key, origin, period⟩ }

/-- Stores a timer task and starts its countdown. The context is to be woken if it sleeps and
the new countdown is the first one due. -/
def addTimer (s : State κ) (callback : κ) (period : Period) (autoRepeat : Bool) (now : Tick) :
    Except (Arena.Refusal (TimerTask κ)) (Key × Bool × State κ) :=
  match s.timers.insert ⟨some callback, period, autoRepeat, now, .inert, false, false⟩ with
  | .error refusal => .error refusal
  | .ok (key, timers) =>
    let stored := { s with timers := timers }
    match period with
    | .never => .ok (key, false, stored)
    | .after micros =>
      let leads := s.timerQueue.wouldLead ⟨key, now, micros⟩
      .ok (key, (stored.queueTimer key now micros).wakeIf leads)

/-- Takes a task off the timer queue, or keeps a running one from going back there. -/
def removeTimer (s : State κ) (key : Key) : State κ :=
  match s.timers.get? key with
  | none => s
  | some task =>
    match task.phase with
    | .queued =>
      { s with
        timers := s.timers.modify key fun t => { t with phase := .inert }
        timerQueue := s.timerQueue.erase key }
    | .running => { s with timers := s.timers.modify key fun t => { t with rearm := false } }
    | .inert => s

/-- Gives a task a new period and starts its countdown from `now`; with the period `never` it
stays out of the queue. Whether the context is to be woken, or nothing if the key is stale. -/
def rescheduleTimer (s : State κ) (key : Key) (period : Period) (now : Tick) :
    Option (Bool × State κ) :=
  match s.timers.get? key with
  | none => none
  | some _ =>
    let removed := s.removeTimer key
    let updated := { removed with
      timers := removed.timers.modify key fun t => { t with period := period, origin := now } }
    match period with
    | .never => some (false, updated)
    | .after micros => some ((updated.queueTimer key now micros).wakeIf true)

/-- Starts the countdown of a task that is not queued, with the period it has. Whether the
context is to be woken, or nothing if the task is queued already. -/
def rearmTimer (s : State κ) (key : Key) (now : Tick) : Option (Bool × State κ) :=
  match s.timers.get? key with
  | none => some (false, s)
  | some task =>
    if task.phase = .queued then none
    else
      let removed := s.removeTimer key
      let updated := { removed with
        timers := removed.timers.modify key fun t => { t with origin := now } }
      match task.period with
      | .never => some (false, updated)
      | .after micros =>
        let leads := updated.timerQueue.wouldLead ⟨key, now, micros⟩
        some ((updated.queueTimer key now micros).wakeIf leads)

/-- Frees a task and returns the callback it held. A task that is running is only marked and
is freed after its run. -/
def releaseTimer (s : State κ) (key : Key) : Option κ × State κ :=
  match s.timers.get? key with
  | none => (none, s)
  | some task =>
    if task.phase = .running then
      (none, { s with
        timers := s.timers.modify key fun t => { t with released := true, rearm := false } })
    else
      let removed := s.removeTimer key
      (task.callback, { removed with timers := (removed.timers.remove key).2 })

/-- Whether a task waits in the timer queue. -/
def isTimerQueued (s : State κ) (key : Key) : Bool :=
  (s.timers.get? key).any (·.phase = .queued)

/-- When the countdown of a queued task is over. -/
def timerDeadline (s : State κ) (key : Key) : Option Tick :=
  ((s.timers.get? key).filter (·.phase = .queued)).bind TimerTask.deadline

end State

end CoopScheduler
