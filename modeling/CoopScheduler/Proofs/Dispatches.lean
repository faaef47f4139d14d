import CoopScheduler.Proofs.Counters
import CoopScheduler.Proofs.Passes
import CoopScheduler.Proofs.Pending

/-!
# What is taken to be run

A pass takes a task off its queue and counts it, before anything is run. On any run, with passes
nested in passes:

* The counters say how many tasks were taken off their queues (`Host.Run.counters`).
* The events taken off the queue and those that wait are, in this order, the accepted sends that
  were not withdrawn (`Host.Run.popped_append_pending`).
* A decision takes off the timer queue one countdown, if it fires a timer, and in front of this one
  countdowns whose tasks are gone (`State.evaluate_entries`).
-/

namespace CoopScheduler

variable {κ : Type}

namespace State

/-! ### Counters -/

/-- From one state to another, `events` more event tasks and `timers` more timer tasks were taken
off their queues. -/
structure Counted (s s' : State κ) (events timers : Nat) : Prop where
  events_eq : s'.counters.eventsDispatched = s.counters.eventsDispatched + events
  timers_eq : s'.counters.timersFired = s.counters.timersFired + timers

/-! ### Countdowns -/

/-- **What a decision takes off the timer queue**: countdowns whose tasks are gone, and behind these
the one of the timer that it fires, which is over. -/
theorem evaluate_entries (s : State κ) (c : Config) (now : Tick) :
    ∃ gone taken, s.timerQueue.entries = gone ++ taken ++ (s.evaluate c now).2.timerQueue.entries ∧
      (∀ q ∈ gone, s.timers.get? q.key = none) ∧ (∀ q ∈ taken, q.remaining now = 0) ∧
      taken.map Countdown.key = (s.evaluate c now).1.fired?.toList := by
  by_cases hpending : s.eventQueue.pending = []
  · rw [evaluate_of_idle hpending]
    obtain ⟨gone, rest, hentries, hgone, ⟨-, heq⟩ | ⟨head, behind, task, rfl, hover, -, heq⟩⟩ :=
      s.popTimer_skipped now
    · rw [heq]
      exact ⟨gone, [], by simpa using hentries, hgone, by simp, rfl⟩
    · rw [heq]
      exact ⟨gone, [head], by simpa [startTimer] using hentries, hgone, by simpa using hover, rfl⟩
  · rw [evaluate_of_pending hpending]
    exact ⟨[], [], rfl, by simp, by simp, rfl⟩

end State

namespace Host

variable {c : Config} {ok : Condition κ} {past : History κ} {s s' : Host κ} {m : Move κ}

theorem count_event_charge? (s : Host κ) (m : Move κ) :
    (s.charge? m).toList.count .event = (s.popped? m).toList.length := by
  rw [count_charge?, if_neg (by simp), Nat.add_zero]
  cases hresumed : s.resumed? m with
  | none => simp [passCharge?, popped?, hresumed]
  | some resumed =>
    obtain ⟨activation, readAt⟩ := resumed
    cases activation with
    | drain events =>
      cases hpop : s.scheduler.state.popEvent.1 <;>
        simp [passCharge?, popped?, hresumed, Scheduler.charge?, hpop]
    | evaluate events now =>
      cases hdecision : (s.scheduler.state.evaluate s.scheduler.config now).1 <;>
        simp [passCharge?, popped?, hresumed, Scheduler.charge?, hdecision, Decision.charge]
    | _ => simp [passCharge?, popped?, hresumed, Scheduler.charge?]

theorem count_timer_charge? (s : Host κ) (m : Move κ) :
    (s.charge? m).toList.count .timer = (s.firedKey? m).toList.length := by
  rw [count_charge?, if_neg (by simp), Nat.add_zero]
  cases hresumed : s.resumed? m with
  | none => simp [passCharge?, firedKey?, fired?, hresumed]
  | some resumed =>
    obtain ⟨activation, readAt⟩ := resumed
    cases activation with
    | drain events =>
      cases hpop : s.scheduler.state.popEvent.1 <;>
        simp [passCharge?, firedKey?, fired?, hresumed, Scheduler.charge?, hpop]
    | evaluate events now =>
      rw [firedKey?_of_evaluate hresumed]
      cases hdecision : (s.scheduler.state.evaluate s.scheduler.config now).1 <;>
        simp [passCharge?, hresumed, Scheduler.charge?, hdecision, Decision.charge,
          Decision.fired?]
    | _ => simp [passCharge?, firedKey?, fired?, hresumed, Scheduler.charge?]

/-- A step counts what it takes off the queues. -/
theorem step_counted (h : s.step m = some s') :
    s.scheduler.state.Counted s'.scheduler.state (s.popped? m).toList.length
      (s.firedKey? m).toList.length := by
  constructor
  · rw [← count_event_charge?]
    exact step_charged h .event
  · rw [← count_timer_charge?]
    exact step_charged h .timer

/-- **The counters** say how many events were taken off their queue, and how many timers. -/
theorem Run.counters (h : Run c ok past s) :
    s.scheduler.state.counters.eventsDispatched = (log popped? past).length ∧
      s.scheduler.state.counters.timersFired = (log firedKey? past).length := by
  refine h.invariant (I := fun past s =>
    s.scheduler.state.counters.eventsDispatched = (log popped? past).length ∧
      s.scheduler.state.counters.timersFired = (log firedKey? past).length)
    (fun id time => ⟨rfl, rfl⟩) fun hI hstep _ => ?_
  obtain ⟨hevents, htimers⟩ := step_counted hstep
  simp only [log_concat, List.length_append]
  exact ⟨by rw [hevents, hI.1], by rw [htimers, hI.2]⟩

/-! ### Sends in a history -/

/-- What a request does to the queue of events is what it does to the sends. -/
private theorem perform_pending (hagree : s.scheduler.state.EventsAgree) {op : Operation κ}
    {readAt : Nat} (hperformed : s.performed? m = some (op, readAt)) (popped : List Key) :
    popped ++ (s.scheduler.perform op (.ofTime readAt)).2.state.eventQueue.pending
      = s.reviseSends m (popped ++ s.scheduler.state.eventQueue.pending) := by
  have hkept (hqueue : (s.scheduler.perform op (.ofTime readAt)).2.state.eventQueue
        = s.scheduler.state.eventQueue)
      (hwithdrawn : s.withdrawn? m = none) (haccepted : s.accepted? m = none) :
      popped ++ (s.scheduler.perform op (.ofTime readAt)).2.state.eventQueue.pending
        = s.reviseSends m (popped ++ s.scheduler.state.eventQueue.pending) := by
    simp [hqueue, reviseSends, hwithdrawn, haccepted]
  cases op with
  | send handle source =>
    have hwithdrawn : s.withdrawn? m = none := by simp [withdrawn?, released?, hperformed]
    by_cases haccepted : (s.scheduler.send handle source).2.state.eventQueue.pending
        = s.scheduler.state.eventQueue.pending ++ [handle.key]
    · simp [Scheduler.perform, reviseSends, hwithdrawn, accepted?, hperformed, haccepted]
    · refine hkept ?_ hwithdrawn (by simp [accepted?, hperformed, haccepted])
      rw [Scheduler.perform, Scheduler.send_of_refused haccepted]
  | releaseEvent handle =>
    have haccepted : s.accepted? m = none := by simp [accepted?, hperformed]
    by_cases howns : s.scheduler.owns handle.owner = true
    · have hpending := State.releaseEvent_pending_eq _ (hagree.mem_iff handle.key).mp
      simp only [Scheduler.perform, Scheduler.releaseEvent, if_pos howns]
      by_cases hmem : handle.key ∈ s.scheduler.state.eventQueue.pending
      · have hwithdrawn : s.withdrawn? m = some handle.key := by
          simp [withdrawn?, released?, hperformed, howns, hmem]
        rw [hpending, reviseSends, hwithdrawn, haccepted]
        simp only [erase_reverse_append hagree.nodup hmem, Option.toList_none, List.append_nil]
      · have hwithdrawn : s.withdrawn? m = none := by
          simp [withdrawn?, released?, hperformed, howns, hmem]
        rw [hpending, List.erase_of_not_mem hmem]
        simp [reviseSends, hwithdrawn, haccepted]
    · refine hkept ?_ (by simp [withdrawn?, released?, hperformed, howns]) haccepted
      rw [Scheduler.perform, Scheduler.releaseEvent, if_neg howns]
  | createEvent callback =>
    exact hkept (s.scheduler.createEvent_eventQueue callback)
      (by simp [withdrawn?, released?, hperformed]) (by simp [accepted?, hperformed])
  | _ =>
    refine hkept (s.scheduler.perform_eventsKept _ rfl).eventQueue_eq ?_ ?_
    · simp [withdrawn?, released?, hperformed]
    · simp [accepted?, hperformed]

/-- **The events that were popped and those that wait** are the accepted sends that were not
withdrawn, in order. -/
theorem Run.popped_append_pending (h : Run c ok past s) :
    log popped? past ++ s.scheduler.state.eventQueue.pending = sends past := by
  refine h.inductAlong (I := fun past s =>
    log popped? past ++ s.scheduler.state.eventQueue.pending = sends past)
    (fun id time => rfl) ?_
  intro past s m s' hrun hI hstep _
  rw [sends_concat, ← hI, log_concat]
  have hapart (hperformed : s.performed? m = none) (hpopped : s.popped? m = none)
      (hqueue : s'.scheduler.state.eventQueue = s.scheduler.state.eventQueue) :
      log popped? past ++ (s.popped? m).toList ++ s'.scheduler.state.eventQueue.pending
        = s.reviseSends m (log popped? past ++ s.scheduler.state.eventQueue.pending) := by
    simp [hpopped, hqueue, reviseSends, withdrawn?, released?, accepted?, hperformed]
  rcases step_scheduler hstep with ⟨op, readAt, hperformed, hresumed, heq⟩ |
    ⟨activation, readAt, hperformed, hresumed, heq⟩ | ⟨hperformed, hresumed, heq⟩
  · have hpopped : s.popped? m = none := by simp [popped?, hresumed]
    rw [heq, hpopped, Option.toList_none, List.append_nil]
    exact perform_pending hrun.eventsAgree hperformed _
  · cases activation with
    | drain events =>
      obtain ⟨hpopped, hpending⟩ := popped?_eq_head? hrun.eventsAgree hresumed hstep
      have hsplit : (s.popped? m).toList ++ s'.scheduler.state.eventQueue.pending
          = s.scheduler.state.eventQueue.pending := by
        rw [hpopped, hpending]
        cases s.scheduler.state.eventQueue.pending <;> rfl
      rw [List.append_assoc, hsplit]
      simp [reviseSends, withdrawn?, released?, accepted?, hperformed]
    | evaluate events now =>
      refine hapart hperformed (by simp [popped?, hresumed]) ?_
      rw [heq, Scheduler.resume_evaluate_state, (State.evaluate_events ..).2]
    | eventReturned events key callback =>
      refine hapart hperformed (by simp [popped?, hresumed]) ?_
      rw [heq]
      exact State.finishEvent_eventQueue ..
    | settle events key callback after =>
      refine hapart hperformed (by simp [popped?, hresumed]) ?_
      rw [heq]
      exact (State.finishTimer_eventsKept ..).eventQueue_eq
    | _ => exact hapart hperformed (by simp [popped?, hresumed]) (by rw [heq]; rfl)
  · exact hapart hperformed (by simp [popped?, hresumed]) (by rw [heq])

end Host

end CoopScheduler
