import CoopScheduler.Proofs.Requests

/-!
# What is counted

Each counter counts one kind of thing (`Charge`), and a critical section counts one thing at most.

* `Scheduler.counters_perform`: a request is counted if it has the context woken, and not otherwise.
* `Scheduler.counters_resume`: a step of a pass is counted if it takes an event off its queue or
  decides how the pass goes on.
* `Host.charge?` is what a move counts: what a pass counts, or a wake. On any run the counters say
  how often each thing was counted (`Host.Run.charged`), and as many steps were made at least
  (`Host.Run.charged_le`).
-/

namespace CoopScheduler

variable {κ : Type}

/-- What a scheduler counts. -/
inductive Charge where
  /-- An event task that is taken off its queue to run. -/
  | event
  /-- A timer task that is taken off its queue to run. -/
  | timer
  /-- A decision to park. -/
  | park
  /-- A request that has the sleeping context woken. -/
  | wake
  /-- A pass that is cut short by an event that came late. -/
  | recheck
deriving DecidableEq

/-- What a section counts that says whether the context has to be woken. -/
def Charge.ofWake (wake : Bool) : Option Charge :=
  if wake then some .wake else none

namespace Counters

/-- How often something was counted. -/
def charged (c : Counters) : Charge → Nat
  | .event => c.eventsDispatched
  | .timer => c.timersFired
  | .park => c.parks
  | .wake => c.forcedWakes
  | .recheck => c.rechecks

/-- The counters once something is counted, or nothing. -/
def add (c : Counters) : Option Charge → Counters
  | none => c
  | some .event => { c with eventsDispatched := c.eventsDispatched + 1 }
  | some .timer => { c with timersFired := c.timersFired + 1 }
  | some .park => { c with parks := c.parks + 1 }
  | some .wake => { c with forcedWakes := c.forcedWakes + 1 }
  | some .recheck => { c with rechecks := c.rechecks + 1 }

theorem charged_add (c : Counters) (charge? : Option Charge) (charge : Charge) :
    (c.add charge?).charged charge = c.charged charge + charge?.toList.count charge := by
  cases charge? with
  | none => rfl
  | some new => cases new <;> cases charge <;> rfl

end Counters

/-- What a decision counts. -/
def Decision.charge : Decision κ → Charge
  | .fire .. => .timer
  | .recheck => .recheck
  | .park _ => .park

/-! ### Sections -/

namespace State

variable {s s' : State κ} {key : Key} {wake : Bool} {now : Tick}

theorem counters_of_wakeIf {revised : State κ} {cause : Bool}
    (h : revised.wakeIf cause = (wake, s')) (hrevised : revised.counters = s.counters) :
    s'.counters = s.counters.add (Charge.ofWake wake) := by
  rw [← hrevised]
  unfold wakeIf at h
  split at h <;> cases h <;> rfl

theorem counters_removeTimer (s : State κ) (key : Key) :
    (s.removeTimer key).counters = s.counters := by
  unfold removeTimer
  split
  · rfl
  · split <;> rfl

theorem counters_addTimer {callback : κ} {period : Period} {autoRepeat : Bool}
    (h : s.addTimer callback period autoRepeat now = .ok (key, wake, s')) :
    s'.counters = s.counters.add (Charge.ofWake wake) := by
  unfold addTimer at h
  split at h
  · cases h
  · split at h
    · cases h
      rfl
    · obtain ⟨-, hwake⟩ := Prod.mk.inj (Except.ok.inj h)
      exact counters_of_wakeIf hwake rfl

theorem counters_rescheduleTimer {period : Period}
    (h : s.rescheduleTimer key period now = some (wake, s')) :
    s'.counters = s.counters.add (Charge.ofWake wake) := by
  unfold rescheduleTimer at h
  split at h
  · cases h
  · split at h
    · cases h
      exact counters_removeTimer s key
    · exact counters_of_wakeIf (Option.some.inj h) (counters_removeTimer s key)

theorem counters_rearmTimer (h : s.rearmTimer key now = some (wake, s')) :
    s'.counters = s.counters.add (Charge.ofWake wake) := by
  unfold rearmTimer at h
  split at h
  · cases h
    rfl
  · split at h
    · cases h
    · dsimp only at h
      split at h
      · cases h
        exact counters_removeTimer s key
      · exact counters_of_wakeIf (Option.some.inj h) (counters_removeTimer s key)

theorem counters_releaseTimer (s : State κ) (key : Key) :
    (s.releaseTimer key).2.counters = s.counters := by
  unfold releaseTimer
  split
  · rfl
  · split
    · rfl
    · exact counters_removeTimer s key

theorem counters_createEvent {callback : κ} (h : s.createEvent callback = .ok (key, s')) :
    s'.counters = s.counters := by
  obtain ⟨events, -, rfl⟩ := createEvent_eq h
  rfl

theorem counters_sendEvent (s : State κ) (key : Key) :
    (s.sendEvent key).2.counters = s.counters.add (Charge.ofWake (s.sendEvent key).1) := by
  unfold sendEvent
  split
  · exact counters_of_wakeIf (Prod.eta _).symm rfl
  · rfl

theorem counters_releaseEvent (s : State κ) (key : Key) :
    (s.releaseEvent key).2.counters = s.counters := by
  have hremoved : (s.removeEvent key).counters = s.counters := by
    unfold removeEvent
    split <;> rfl
  unfold releaseEvent
  split
  · rfl
  · dsimp only
    split <;> exact hremoved

theorem counters_popEvent (s : State κ) :
    s.popEvent.2.counters = s.counters.add (s.popEvent.1.map fun _ => .event) := by
  rw [popEvent]
  generalize s.eventQueue.pending = pending
  induction pending with
  | nil => rfl
  | cons key rest ih =>
    rw [popEventFrom]
    split
    · exact ih
    · rfl

theorem counters_finishEvent (s : State κ) (key : Key) (callback : Option κ) :
    (s.finishEvent key callback).2.counters = s.counters := by
  unfold finishEvent
  split
  · rfl
  · dsimp only
    split <;> rfl

theorem counters_finishTimer (s : State κ) (key : Key) (callback : Option κ) (after : Tick) :
    (s.finishTimer key callback after).2.counters = s.counters := by
  unfold finishTimer settleTimer
  split
  · rfl
  · split
    · rfl
    · dsimp only
      split <;> try split
      all_goals rfl

/-- A countdown that is left out because its task is gone is not counted. -/
theorem counters_evaluate (s : State κ) (c : Config) (now : Tick) :
    (s.evaluate c now).2.counters = s.counters.add (some (s.evaluate c now).1.charge) := by
  by_cases hpending : s.eventQueue.pending = []
  · rw [evaluate_of_idle hpending]
    rcases s.popTimer_cases now with ⟨rest, -, heq⟩ | ⟨head, rest, task, -, -, -, heq⟩
    · rw [heq]
      rfl
    · rw [heq]
      rfl
  · rw [evaluate_of_pending hpending]
    rfl

end State

/-! ### Requests and steps of a pass -/

namespace Scheduler

theorem threadWake_map (wake : Bool) :
    ((threadWake wake).map fun _ => Charge.wake) = Charge.ofWake wake := by
  cases wake <;> rfl

/-- **What a request counts** is the wake that it asks for. -/
theorem counters_perform (s : Scheduler κ) (op : Operation κ) (now : Tick) :
    (s.perform op now).2.state.counters
      = s.state.counters.add ((s.perform op now).1.wake?.map fun _ => .wake) := by
  cases op with
  | addTimer callback period autoRepeat =>
    simp only [perform, addTimer]
    cases hadd : s.state.addTimer callback period autoRepeat now with
    | error refusal => cases refusal <;> rfl
    | ok stored => simpa only [threadWake_map] using State.counters_addTimer hadd
  | reschedule handle period =>
    simp only [perform, reschedule]
    split
    · split
      · rfl
      · next hresult => simpa only [threadWake_map] using State.counters_rescheduleTimer hresult
    · rfl
  | removeTimer handle =>
    simp only [perform, removeTimer]
    split
    · exact State.counters_removeTimer _ _
    · rfl
  | rearm handle =>
    simp only [perform, rearm]
    split
    · split
      · rfl
      · next hresult => simpa only [threadWake_map] using State.counters_rearmTimer hresult
    · rfl
  | releaseTimer handle =>
    simp only [perform, releaseTimer]
    split
    · exact State.counters_releaseTimer _ _
    · rfl
  | createEvent callback =>
    simp only [perform, createEvent]
    cases hcreate : s.state.createEvent callback with
    | error refusal => cases refusal <;> rfl
    | ok stored => exact State.counters_createEvent hcreate
  | send handle source =>
    simp only [perform, send]
    split
    · refine (State.counters_sendEvent _ _).trans (congrArg _ ?_)
      cases (s.state.sendEvent handle.key).1 <;> rfl
    · rfl
  | releaseEvent handle =>
    simp only [perform, releaseEvent]
    split
    · exact State.counters_releaseEvent _ _
    · rfl

/-- What a step of a pass counts. -/
def charge? (s : Scheduler κ) : Activation κ → Option Charge
  | .drain _ => s.state.popEvent.1.map fun _ => .event
  | .evaluate _ now => some (s.state.evaluate s.config now).1.charge
  | _ => none

theorem counters_resume (s : Scheduler κ) (activation : Activation κ) :
    (s.resume activation).2.state.counters = s.state.counters.add (s.charge? activation) := by
  cases activation with
  | drain events =>
    rw [resume_drain_state]
    exact s.state.counters_popEvent
  | evaluate events now =>
    rw [resume_evaluate_state]
    exact s.state.counters_evaluate s.config now
  | eventReturned events key callback => exact s.state.counters_finishEvent key callback
  | settle events key callback after => exact s.state.counters_finishTimer key callback after
  | timerReturned _ _ _ | woken _ _ | ended _ => rfl

end Scheduler

/-! ### Runs -/

namespace Host

variable {c : Config} {ok : Condition κ} {past : History κ} {s s' : Host κ} {m : Move κ}

/-- From where a move asks to have the context woken. -/
def asksWake? (s : Host κ) (m : Move κ) : Option WakeSource :=
  (s.performed? m).bind fun request =>
    (s.scheduler.perform request.1 (.ofTime request.2)).1.wake?

/-- What a move counts that lets a pass go on. -/
def passCharge? (s : Host κ) (m : Move κ) : Option Charge :=
  (s.resumed? m).bind fun resumed => s.scheduler.charge? resumed.1

/-- What a move counts. -/
def charge? (s : Host κ) (m : Move κ) : Option Charge :=
  (s.passCharge? m).or ((s.asksWake? m).map fun _ => .wake)

/-- What a move counts is counted by a pass, or it is a wake. -/
theorem count_charge? (s : Host κ) (m : Move κ) (charge : Charge) :
    (s.charge? m).toList.count charge = (s.passCharge? m).toList.count charge
      + if charge = .wake then (s.asksWake? m).toList.length else 0 := by
  cases m with
  | perform i =>
    rw [charge?, show s.passCharge? (.perform i) = none from rfl]
    cases s.asksWake? (.perform i) <;> cases charge <;> rfl
  | resume =>
    rw [charge?, show s.asksWake? .resume = none from rfl]
    simp
  | _ => simp [charge?, passCharge?, asksWake?, resumed?, performed?]

theorem step_counters (h : s.step m = some s') :
    s'.scheduler.state.counters = s.scheduler.state.counters.add (s.charge? m) := by
  rcases step_scheduler h with ⟨op, readAt, hperformed, hresumed, heq⟩ |
    ⟨activation, readAt, hperformed, hresumed, heq⟩ | ⟨hperformed, hresumed, heq⟩
  · rw [heq, Scheduler.counters_perform]
    simp [charge?, passCharge?, asksWake?, hperformed, hresumed]
  · rw [heq, Scheduler.counters_resume]
    simp [charge?, passCharge?, asksWake?, hperformed, hresumed]
  · rw [heq]
    simp [charge?, passCharge?, asksWake?, hperformed, hresumed, Counters.add]

/-- A step adds what it counts. -/
theorem step_charged (h : s.step m = some s') (charge : Charge) :
    s'.scheduler.state.counters.charged charge
      = s.scheduler.state.counters.charged charge + (s.charge? m).toList.count charge := by
  rw [step_counters h, Counters.charged_add]

/-- **The counters** say how often each thing was counted. -/
theorem Run.charged (h : Run c ok past s) (charge : Charge) :
    s.scheduler.state.counters.charged charge = (log charge? past).count charge := by
  refine h.invariant (I := fun past s =>
    s.scheduler.state.counters.charged charge = (log charge? past).count charge)
    (fun id time => ?_) fun hI hstep _ => ?_
  · cases charge <;> rfl
  · rw [step_charged hstep, hI, log_concat, List.count_append]

/-- What was counted was counted by passes, and the rest are wakes. -/
theorem count_log_charge? (past : History κ) (charge : Charge) :
    (log charge? past).count charge = (log passCharge? past).count charge
      + if charge = .wake then (log asksWake? past).length else 0 := by
  induction past using List.reverseRecOn with
  | nil => simp [log]
  | append_singleton past step ih =>
    rw [log_concat, log_concat, log_concat, List.count_append, List.count_append,
      List.length_append, count_charge?, ih]
    split <;> omega

/-- No counter exceeds the number of steps. -/
theorem Run.charged_le (h : Run c ok past s) (charge : Charge) :
    s.scheduler.state.counters.charged charge ≤ past.length := by
  rw [h.charged]
  exact Nat.le_trans List.count_le_length (List.length_filterMap_le ..)

end Host

end CoopScheduler
