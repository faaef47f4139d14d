import CoopScheduler.State

/-!
# Critical sections on event tasks

The sections behind the requests about event tasks. An event task is in the queue at most
once: a send is **accepted** only if the task exists, does not wait already and is not about
to be freed (`State.acceptsSend`). Any other send changes nothing.
-/

namespace CoopScheduler

namespace State

variable {κ : Type}

/-- Stores an event task. -/
def createEvent (s : State κ) (callback : κ) :
    Except (Arena.Refusal (EventTask κ)) (Key × State κ) :=
  (s.events.insert ⟨some callback, false, false, false⟩).map fun (key, events) =>
    (key, { s with events := events })

/-- Whether a send to this task would queue it. -/
def acceptsSend (s : State κ) (key : Key) : Bool :=
  (s.events.get? key).any fun t => !t.queued && !t.released

/-- Queues an event task. Whether the context is to be woken. -/
def sendEvent (s : State κ) (key : Key) : Bool × State κ :=
  if s.acceptsSend key then
    wakeIf { s with
      events := s.events.modify key fun t => { t with queued := true }
      eventQueue := s.eventQueue.push key } true
  else
    (false, s)

/-- Takes an event task off its queue. -/
def removeEvent (s : State κ) (key : Key) : State κ :=
  if (s.events.get? key).any (·.queued) then
    { s with
      events := s.events.modify key fun t => { t with queued := false }
      eventQueue := s.eventQueue.erase key }
  else
    s

/-- Takes an event task off its queue and frees it, returning the callback it held. A task
that is running is only marked and is freed after its run. -/
def releaseEvent (s : State κ) (key : Key) : Option κ × State κ :=
  match s.events.get? key with
  | none => (none, s)
  | some task =>
    let removed := s.removeEvent key
    if task.running then
      (none, { removed with
        events := removed.events.modify key fun t => { t with released := true } })
    else
      (task.callback, { removed with events := (removed.events.remove key).2 })

/-- Whether an event task waits to run. -/
def isEventPending (s : State κ) (key : Key) : Bool :=
  (s.events.get? key).any (·.queued)

end State

end CoopScheduler
